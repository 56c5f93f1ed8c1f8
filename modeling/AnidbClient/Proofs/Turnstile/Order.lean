import AnidbClient.Proofs.Turnstile.Moves

/-!
# One caller at a time

A turnstile is `Orderly` when its line holds everyone who is present exactly once and all but the
first one wait.  Every run from an empty turnstile is orderly (`orderly_run`), so whoever keeps a
delay or is inside stands at the head of the line, and nobody else is with it.

What is shown here once is what the invariants of a service rest on.  `Service.Keeps` says that a
property of the clock, of the caller inside and of the shared state survives each of the five
things that callers can do, and `Service.Keeps.run` carries such a property through every run:
the delays, the line and the other callers never matter for it.
-/

namespace AnidbClient

/-- The caller has neither left nor been called away. -/
def Stage.isPresent {Job Stay Result : Type} : Stage Job Stay Result → Bool
  | .waiting _ | .pacing _ _ | .inside _ => true
  | .left _ | .gone => false

/-- The caller goes on inside, if it does. -/
def Turn.stay? {Stay Result : Type} : Turn Stay Result → Option Stay
  | .staying y => some y
  | .leaving _ => none

namespace Turnstile

variable {State Job Stay Result : Type}

/-- Everyone present is in line once, and all but the first one wait. -/
structure Orderly (w : Turnstile State Job Stay Result) : Prop where
  nodup : w.line.Nodup
  mem_line_iff : ∀ id, id ∈ w.line ↔ (w.stage id).any Stage.isPresent = true
  waiting_of_mem_tail : ∀ id ∈ w.line.tail, ∃ ticket, w.stage id = some (.waiting ticket)

/-- What the caller inside waits for, if anyone is inside. -/
def inside? (w : Turnstile State Job Stay Result) : Option Stay :=
  w.line.head?.bind fun id =>
    match w.stage id with
    | some (.inside y) => some y
    | _ => none

/-! ## The head of the line -/

section Head

variable {w : Turnstile State Job Stay Result} {id : Caller}

theorem Orderly.not_mem_line (h : w.Orderly) (hnew : w.stage id = none) : id ∉ w.line := by
  rw [h.mem_line_iff, hnew]
  exact Bool.false_ne_true

/-- Whoever is present and does not wait has its turn. -/
theorem Orderly.head?_of_not_waiting (h : w.Orderly) {s : Stage Job Stay Result}
    (hstage : w.stage id = some s) (hpresent : s.isPresent = true)
    (hwait : ∀ ticket, s ≠ .waiting ticket) : w.line.head? = some id := by
  have hmem : id ∈ w.line := by
    rw [h.mem_line_iff, hstage]
    exact hpresent
  have htail := h.waiting_of_mem_tail id
  cases hline : w.line with
  | nil => simp [hline] at hmem
  | cons first rest =>
    rw [hline, List.tail_cons] at htail
    rw [hline, List.mem_cons] at hmem
    rcases hmem with rfl | hrest
    · rfl
    · obtain ⟨ticket, hticket⟩ := htail hrest
      rw [hstage, Option.some.injEq] at hticket
      exact absurd hticket (hwait ticket)

theorem Orderly.head?_of_pacing (h : w.Orderly) {j : Job} {ready : Instant}
    (hstage : w.stage id = some (.pacing j ready)) : w.line.head? = some id :=
  h.head?_of_not_waiting hstage rfl (by intro _ heq; cases heq)

theorem Orderly.head?_of_inside (h : w.Orderly) {y : Stay}
    (hstage : w.stage id = some (.inside y)) : w.line.head? = some id :=
  h.head?_of_not_waiting hstage rfl (by intro _ heq; cases heq)

theorem Orderly.inside?_of_inside (h : w.Orderly) {y : Stay}
    (hstage : w.stage id = some (.inside y)) : w.inside? = some y := by
  unfold inside?
  rw [h.head?_of_inside hstage, Option.bind_some, hstage]

/-- Two callers are never inside together. -/
theorem Orderly.eq_of_inside (h : w.Orderly) {k : Caller} {y z : Stay}
    (hid : w.stage id = some (.inside y)) (hk : w.stage k = some (.inside z)) : k = id := by
  have hhead := h.head?_of_inside hk
  rw [h.head?_of_inside hid, Option.some.injEq] at hhead
  exact hhead.symm

theorem inside?_eq_none (hnone : ∀ k y, w.stage k ≠ some (.inside y)) : w.inside? = none := by
  unfold inside?
  cases w.line.head? with
  | none => rfl
  | some k =>
    rw [Option.bind_some]
    split
    · rename_i y hk
      exact absurd hk (hnone k y)
    · rfl

/-- Nobody is inside while the first one waits. -/
theorem inside?_of_head_waiting {ticket : Ticket Job} (hhead : w.line.head? = some id)
    (hstage : w.stage id = some (.waiting ticket)) : w.inside? = none := by
  unfold inside?
  rw [hhead, Option.bind_some, hstage]

/-- Nobody is inside while the first one keeps its delay. -/
theorem Orderly.inside?_of_pacing (h : w.Orderly) {j : Job} {ready : Instant}
    (hstage : w.stage id = some (.pacing j ready)) : w.inside? = none := by
  unfold inside?
  rw [h.head?_of_pacing hstage, Option.bind_some, hstage]

theorem Orderly.exists_inside (h : w.Orderly) {y : Stay} (hy : w.inside? = some y) :
    ∃ id, w.stage id = some (.inside y) := by
  by_contra hnot
  have hnone : w.inside? = none := by
    apply inside?_eq_none
    intro k z hk
    have hz := h.inside?_of_inside hk
    rw [hy, Option.some.injEq] at hz
    exact hnot ⟨k, hz ▸ hk⟩
  rw [hnone] at hy
  cases hy

/-- Nobody but the first one can go on. -/
theorem Orderly.poll_of_not_first (h : w.Orderly) (hhead : w.line.head? ≠ some id)
    (sv : Service State Job Stay Result) (l : Limits) : w.poll sv l id = w := by
  unfold poll
  split
  · exact if_neg hhead
  · rename_i hstage
    exact absurd (h.head?_of_pacing hstage) hhead
  · rename_i hstage
    exact absurd (h.head?_of_inside hstage) hhead
  · rfl

/-- While a caller is inside nobody else can go on. -/
theorem Orderly.poll_of_ne (h : w.Orderly) {y : Stay} (hid : w.stage id = some (.inside y))
    {k : Caller} (hk : k ≠ id) (sv : Service State Job Stay Result) (l : Limits) :
    w.poll sv l k = w := by
  apply h.poll_of_not_first
  rw [h.head?_of_inside hid]
  exact fun heq => hk (Option.some.inj heq).symm

/-- Somebody else who is called away leaves the caller inside and the shared state alone. -/
theorem Orderly.drop_of_ne (h : w.Orderly) {y : Stay} (hid : w.stage id = some (.inside y))
    {k : Caller} (hk : k ≠ id) (sv : Service State Job Stay Result) :
    (w.drop sv k).state = w.state ∧ (w.drop sv k).stage id = w.stage id := by
  have hhead : w.line.head? ≠ some k := by
    rw [h.head?_of_inside hid]
    exact fun heq => hk (Option.some.inj heq).symm
  unfold drop
  split
  · exact ⟨rfl, stage_setStage_of_ne _ _ _ (Ne.symm hk)⟩
  · rename_i hstage
    exact absurd (h.head?_of_pacing hstage) hhead
  · rename_i hstage
    exact absurd (h.head?_of_inside hstage) hhead
  · exact ⟨rfl, rfl⟩

end Head

/-! ## Order is kept -/

section Kept

variable {w : Turnstile State Job Stay Result} {id : Caller}

theorem orderly_opened (t : State) :
    (opened t : Turnstile State Job Stay Result).Orderly where
  nodup := List.nodup_nil
  mem_line_iff _ := by simp [opened]
  waiting_of_mem_tail _ h := by simp [opened] at h

/-- The line and the stages are all that order is about. -/
theorem Orderly.congr (h : w.Orderly) {v : Turnstile State Job Stay Result}
    (hline : v.line = w.line) (hstage : v.stage = w.stage) : v.Orderly := by
  refine ⟨hline ▸ h.nodup, ?_, ?_⟩
  · rw [hline, hstage]
    exact h.mem_line_iff
  · rw [hline, hstage]
    exact h.waiting_of_mem_tail

/-- A newcomer gets in line behind everyone else. -/
theorem Orderly.join (h : w.Orderly) (hnew : w.stage id = none) (ticket : Ticket Job) :
    ({ w with line := w.line ++ [id] }.setStage id (.waiting ticket)).Orderly := by
  have hid : id ∉ w.line := h.not_mem_line hnew
  refine ⟨?_, ?_, ?_⟩
  · rw [line_setStage, List.nodup_append]
    refine ⟨h.nodup, List.nodup_cons.2 ⟨List.not_mem_nil, List.nodup_nil⟩, ?_⟩
    rintro k hk _ hlast rfl
    rw [List.mem_singleton] at hlast
    exact hid (hlast ▸ hk)
  · intro k
    rw [line_setStage, stage_setStage, List.mem_append, List.mem_singleton]
    by_cases hk : k = id
    · simp [hk, Stage.isPresent]
    · simp [hk, h.mem_line_iff]
  · intro k hk
    rw [line_setStage] at hk
    rw [stage_setStage]
    split
    · exact ⟨ticket, rfl⟩
    · rename_i hne
      have hmem : k ∈ w.line.tail := by
        cases hline : w.line with
        | nil => simp [hline] at hk
        | cons first rest => simpa [hline, hne] using hk
      exact h.waiting_of_mem_tail k hmem

/-- The first one goes a stage further. -/
theorem Orderly.advance (h : w.Orderly) (hhead : w.line.head? = some id)
    {s : Stage Job Stay Result} (hs : s.isPresent = true) : (w.setStage id s).Orderly := by
  obtain ⟨rest, hline⟩ := List.head?_eq_some_iff.1 hhead
  refine ⟨h.nodup, ?_, ?_⟩
  · intro k
    rw [line_setStage, stage_setStage]
    split
    · rename_i hk
      simp [hk, hline, hs]
    · exact h.mem_line_iff k
  · intro k hk
    rw [line_setStage] at hk
    have hne : k ≠ id := by
      have hnodup := h.nodup
      rw [hline, List.nodup_cons] at hnodup
      rw [hline, List.tail_cons] at hk
      intro heq
      exact hnodup.1 (heq ▸ hk)
    rw [stage_setStage_of_ne _ _ _ hne]
    exact h.waiting_of_mem_tail k hk

/-- Whoever leaves or is called away is not in line any more. -/
theorem Orderly.leave (h : w.Orderly) (id : Caller) {s : Stage Job Stay Result}
    (hs : s.isPresent = false) : ((w.stepOut id).setStage id s).Orderly := by
  refine ⟨h.nodup.erase id, ?_, ?_⟩
  · intro k
    rw [line_setStage, line_stepOut, stage_setStage, h.nodup.mem_erase_iff]
    split
    · rename_i hk
      simp [hk, hs]
    · rename_i hk
      simp [hk, h.mem_line_iff]
  · intro k hk
    rw [line_setStage, line_stepOut] at hk
    have hmem : k ∈ (w.line.erase id) := List.mem_of_mem_tail hk
    rw [h.nodup.mem_erase_iff] at hmem
    rw [stage_setStage_of_ne _ _ _ hmem.1, stage_stepOut]
    apply h.waiting_of_mem_tail
    cases hline : w.line with
    | nil => simp [hline] at hmem
    | cons first rest =>
      rw [hline, List.erase_cons] at hk
      split at hk
      · exact List.mem_of_mem_tail hk
      · exact List.mem_of_mem_erase hk

theorem Orderly.settle (h : w.Orderly) (hhead : w.line.head? = some id)
    (turn : State × Turn Stay Result) : (w.settle id turn).Orderly := by
  obtain ⟨t, y | r⟩ := turn
  · rw [settle_staying]
    have h' : ({ w with state := t } : Turnstile State Job Stay Result).Orderly :=
      h.congr rfl rfl
    exact h'.advance hhead rfl
  · rw [settle_leaving]
    exact (h.leave id (s := .left (.result r)) rfl).congr rfl rfl

variable {sv : Service State Job Stay Result} {l : Limits}

theorem GoesIn.head? {j : Job} {p : Pace} (hin : GoesIn sv l w id j p) (h : w.Orderly) :
    w.line.head? = some id := by
  cases hin with
  | atOnce _ hhead _ => exact hhead
  | paced hstage _ => exact h.head?_of_pacing hstage

/-- Nobody is inside when a caller is let in. -/
theorem GoesIn.inside? {j : Job} {p : Pace} (hin : GoesIn sv l w id j p) (h : w.Orderly) :
    w.inside? = none := by
  cases hin with
  | atOnce hstage hhead _ => exact inside?_of_head_waiting hhead hstage
  | paced hstage _ => exact h.inside?_of_pacing hstage

theorem Orderly.move {e : Event Job} {w' : Turnstile State Job Stay Result} (h : w.Orderly)
    (hm : Move sv l w e w') : w'.Orderly := by
  have hpaced : ∀ p : Pace, ({ w with pace := p } : Turnstile State Job Stay Result).Orderly :=
    fun p => h.congr rfl rfl
  cases hm with
  | rest => exact h
  | tick d => exact h.congr rfl rfl
  | ask hnew => exact h.join hnew _
  | @refuse k j t r hnew _ =>
    refine (h.leave k (s := .left (.result r)) rfl).congr ?_ rfl
    exact (List.erase_of_not_mem (h.not_mem_line hnew)).symm
  | @queue k j t hnew _ => exact (h.join hnew (.job j)).congr rfl rfl
  | tell => exact h.leave _ rfl
  | @pace k j p wait _ hhead _ =>
    exact (hpaced p).advance (s := .pacing j (w.now + sv.clock.lasts wait)) hhead rfl
  | @enter k j p hin => exact (hpaced p).settle (hin.head? h) _
  | resume hstage => exact h.settle (h.head?_of_inside hstage) _
  | dropWaiting => exact h.leave _ rfl
  | @dropPacing k => exact (h.leave k (s := .gone) rfl).congr rfl rfl
  | @dropInside k => exact (h.leave k (s := .gone) rfl).congr rfl rfl

theorem orderly_run (sv : Service State Job Stay Result) (l : Limits) (h : w.Orderly)
    (events : List (Event Job)) : (w.run sv l events).Orderly :=
  run_induction sv l h (fun hv hm => hv.move hm) events

end Kept

/-! ## Who is inside after a change -/

section Inside

variable {w : Turnstile State Job Stay Result} {id : Caller}

/-- Who is inside depends on the stages inside alone. -/
theorem Orderly.inside?_congr {v : Turnstile State Job Stay Result} (hv : v.Orderly)
    (hw : w.Orderly)
    (h : ∀ k y, v.stage k = some (.inside y) ↔ w.stage k = some (.inside y)) :
    v.inside? = w.inside? := by
  cases hy : w.inside? with
  | none =>
    apply inside?_eq_none
    intro k y hk
    have hsome := hw.inside?_of_inside ((h k y).1 hk)
    rw [hy] at hsome
    cases hsome
  | some y =>
    obtain ⟨k, hk⟩ := hw.exists_inside hy
    exact hv.inside?_of_inside ((h k y).2 hk)

/-- A caller that was not inside and does not get in changes nothing. -/
theorem Orderly.inside?_setStage (hw : w.Orderly) {v : Turnstile State Job Stay Result}
    {s : Stage Job Stay Result} (hv : (v.setStage id s).Orderly) (hstage : v.stage = w.stage)
    (hid : ∀ y, w.stage id ≠ some (.inside y)) (hs : ∀ y, s ≠ .inside y) :
    (v.setStage id s).inside? = w.inside? := by
  apply hv.inside?_congr hw
  intro k y
  rw [stage_setStage, hstage]
  split
  · rename_i hk
    rw [hk]
    simp [hid, hs]
  · exact Iff.rfl

/-- Nobody is inside once the caller inside has left. -/
theorem Orderly.inside?_leave (hw : w.Orderly) (hhead : w.line.head? = some id)
    {v : Turnstile State Job Stay Result} {s : Stage Job Stay Result} (hstage : v.stage = w.stage)
    (hs : ∀ y, s ≠ .inside y) : (v.setStage id s).inside? = none := by
  apply inside?_eq_none
  intro k y hk
  rw [stage_setStage, hstage] at hk
  split at hk
  · exact hs y (Option.some.inj hk)
  · rename_i hne
    have hhead' := hw.head?_of_inside hk
    rw [hhead, Option.some.injEq] at hhead'
    exact hne hhead'.symm

/-- Whoever settles is inside if it stays, and nobody is if it leaves. -/
theorem Orderly.inside?_settle (hw : w.Orderly) (hhead : w.line.head? = some id)
    (turn : State × Turn Stay Result) :
    (w.settle id turn).inside? = turn.2.stay? := by
  obtain ⟨t, y | r⟩ := turn
  · have hv := hw.settle hhead (t, .staying y)
    rw [settle_staying] at hv ⊢
    exact hv.inside?_of_inside (stage_setStage_self _ _ _)
  · rw [settle_leaving]
    exact hw.inside?_leave hhead rfl (by intro y heq; cases heq)

end Inside

end Turnstile

/-! ## Properties of a service -/

variable {State Job Stay Result : Type}

/-- A property of the clock, of what the caller inside waits for, and of the shared state, that
nothing a caller can do breaks. -/
structure Service.Keeps (sv : Service State Job Stay Result)
    (P : Instant → Option Stay → State → Prop) : Prop where
  later : ∀ {now now' : Instant} {o : Option Stay} {t : State}, now ≤ now' → P now o t → P now' o t
  arrive : ∀ {now : Instant} {o : Option Stay} {t : State} (j : Job), P now o t →
    P now o (sv.arrive now j t).1
  enter : ∀ {now : Instant} {t : State} (j : Job), P now none t →
    P now (sv.enter now j t).2.stay? (sv.enter now j t).1
  resume : ∀ {now : Instant} {y : Stay} {t : State}, P now (some y) t →
    P now (sv.resume now y t).2.stay? (sv.resume now y t).1
  abandon : ∀ {now : Instant} {y : Stay} {t : State}, P now (some y) t →
    P now none (sv.abandon now y t)

namespace Service.Keeps

open Turnstile

variable {sv : Service State Job Stay Result} {l : Limits}
  {P : Instant → Option Stay → State → Prop} {w : Turnstile State Job Stay Result}

theorem move (hP : sv.Keeps P) {e : Event Job} {w' : Turnstile State Job Stay Result}
    (hw : w.Orderly) (hm : Move sv l w e w') (h : P w.now w.inside? w.state) :
    P w'.now w'.inside? w'.state := by
  have hw' : w'.Orderly := hw.move hm
  cases hm with
  | rest => exact h
  | tick d => exact hP.later (Nat.le_add_right _ _) h
  | ask hnew =>
    rw [hw.inside?_setStage hw' rfl (by simp [hnew]) (by simp)]
    exact h
  | @refuse k j t r hnew harrive =>
    rw [hw.inside?_setStage hw' rfl (by simp [hnew]) (by simp)]
    have hj := hP.arrive j h
    rw [harrive] at hj
    exact hj
  | @queue k j t hnew harrive =>
    rw [hw.inside?_setStage hw' rfl (by simp [hnew]) (by simp)]
    have hj := hP.arrive j h
    rw [harrive] at hj
    exact hj
  | tell hstage _ =>
    rw [hw.inside?_setStage hw' rfl (by simp [hstage]) (by simp)]
    exact h
  | pace hstage _ _ =>
    rw [hw.inside?_setStage hw' rfl (by simp [hstage]) (by simp)]
    exact h
  | @enter k j p hin =>
    have hpaced : ({ w with pace := p } : Turnstile State Job Stay Result).Orderly :=
      hw.congr rfl rfl
    rw [hpaced.inside?_settle (hin.head? hw), now_settle, state_settle]
    rw [hin.inside? hw] at h
    exact hP.enter j h
  | @resume k y hstage =>
    rw [hw.inside?_settle (hw.head?_of_inside hstage), now_settle, state_settle]
    rw [hw.inside?_of_inside hstage] at h
    exact hP.resume h
  | dropWaiting hstage =>
    rw [hw.inside?_setStage hw' rfl (by simp [hstage]) (by simp)]
    exact h
  | dropPacing hstage =>
    rw [hw.inside?_setStage hw' rfl (by simp [hstage]) (by simp)]
    exact h
  | @dropInside k y hstage =>
    have hnone := hw.inside?_leave (hw.head?_of_inside hstage)
      (v := { w with state := sv.abandon w.now y w.state }.passOut k) (s := .gone) rfl (by simp)
    rw [hnone]
    rw [hw.inside?_of_inside hstage] at h
    exact hP.abandon h

/-- What no caller can break holds after every run. -/
theorem run (hP : sv.Keeps P) (hw : w.Orderly) (h : P w.now w.inside? w.state)
    (events : List (Event Job)) :
    P (w.run sv l events).now (w.run sv l events).inside? (w.run sv l events).state := by
  have hboth : (w.run sv l events).Orderly ∧
      P (w.run sv l events).now (w.run sv l events).inside? (w.run sv l events).state :=
    run_induction sv l (P := fun v => v.Orderly ∧ P v.now v.inside? v.state) ⟨hw, h⟩
      (fun hv hm => ⟨hv.1.move hm, hP.move hv.1 hm hv.2⟩) events
  exact hboth.2

end Service.Keeps

end AnidbClient
