import AnidbClient.Proofs.Turnstile.Moves

/-!
# Services that mimic each other

Two services that tell callers the same things, though their states differ, let the same things
happen before and in the turnstile.  `Service.Mimics` says so of every act of a caller, by a
relation between the states.  It may rest on a condition on the state that an entering caller
leaves, for what can only be told afterwards.

`Alike` is what the two turnstiles have in common at every moment: the clock, the pace, the line,
how far everybody has come, and what the callers have left with (`Alike.run`).
-/

namespace AnidbClient

variable {State Job Stay Result : Type}

/-- The second service does what the first one does, on related states, wherever the state that the
first one leaves to an entering caller is one of these. -/
structure Service.Mimics (sv sv' : Service State Job Stay Result) (R : State → State → Prop)
    (P : State → Prop) : Prop where
  clock : sv'.clock = sv.clock
  keepsShort : ∀ j, sv'.keepsShort j = sv.keepsShort j
  arrive : ∀ (now : Instant) {t t' : State} (j : Job), R t t' →
    R (sv.arrive now j t).1 (sv'.arrive now j t').1 ∧
      (sv'.arrive now j t').2 = (sv.arrive now j t).2
  enter : ∀ (now : Instant) {t t' : State} (j : Job), R t t' → P (sv.enter now j t).1 →
    R (sv.enter now j t).1 (sv'.enter now j t').1 ∧ (sv'.enter now j t').2 = (sv.enter now j t).2
  resume : ∀ (now : Instant) {t t' : State} (y : Stay), R t t' →
    R (sv.resume now y t).1 (sv'.resume now y t').1 ∧
      (sv'.resume now y t').2 = (sv.resume now y t).2
  abandon : ∀ (now : Instant) {t t' : State} (y : Stay), R t t' →
    R (sv.abandon now y t) (sv'.abandon now y t')
  due : ∀ {t t' : State} (y : Stay), R t t' → sv'.due y t' = sv.due y t

namespace Turnstile

/-- The turnstile with another state behind it. -/
def withState (w : Turnstile State Job Stay Result) (t : State) : Turnstile State Job Stay Result :=
  { w with state := t }

/-- The turnstiles differ in what is behind them alone, and the states are related. -/
def Alike (R : State → State → Prop) (w w' : Turnstile State Job Stay Result) : Prop :=
  ∃ t', w' = w.withState t' ∧ R w.state t'

section Alike

variable {R : State → State → Prop} {P : State → Prop} {sv sv' : Service State Job Stay Result}
  {l : Limits} {w w' : Turnstile State Job Stay Result} {id : Caller}

/-- Whoever is told the same stays, or leaves, with the same. -/
theorem Alike.settle (h : Alike R w w') (id : Caller) {turn turn' : State × Turn Stay Result}
    (hturn : R turn.1 turn'.1 ∧ turn'.2 = turn.2) :
    Alike R (w.settle id turn) (w'.settle id turn') := by
  obtain ⟨t', rfl, _⟩ := h
  obtain ⟨t, y⟩ := turn
  obtain ⟨t', y'⟩ := turn'
  obtain ⟨hR, rfl⟩ : R t t' ∧ y' = y := hturn
  cases y' with
  | staying y => exact ⟨t', rfl, hR⟩
  | leaving r => exact ⟨t', rfl, hR⟩

theorem Alike.call (hm : sv.Mimics sv' R P) (h : Alike R w w') (id : Caller) (ticket : Ticket Job) :
    Alike R (w.call sv id ticket) (w'.call sv' id ticket) := by
  obtain ⟨t', rfl, hR⟩ := h
  unfold Turnstile.call
  rw [show (w.withState t').stage = w.stage from rfl]
  split
  · exact ⟨t', rfl, hR⟩
  · cases ticket with
    | delay short => exact ⟨t', rfl, hR⟩
    | job j =>
      have harrive := hm.arrive w.now j hR
      dsimp only [withState] at harrive ⊢
      generalize sv.arrive w.now j w.state = met at harrive ⊢
      generalize sv'.arrive w.now j t' = met' at harrive ⊢
      obtain ⟨s, r⟩ := met
      obtain ⟨s', r'⟩ := met'
      obtain ⟨hR', rfl⟩ : R s s' ∧ r' = r := harrive
      cases r' with
      | some r => exact ⟨s', rfl, hR'⟩
      | none => exact ⟨s', rfl, hR'⟩

theorem Alike.letIn (hm : sv.Mimics sv' R P) (h : Alike R w w') (id : Caller) (j : Job)
    (hP : P (w.letIn sv id j).state) : Alike R (w.letIn sv id j) (w'.letIn sv' id j) := by
  unfold Turnstile.letIn at hP ⊢
  rw [state_settle] at hP
  refine h.settle id ?_
  obtain ⟨t', rfl, hR⟩ := h
  exact hm.enter w.now j hR hP

theorem Alike.takeTurn (hm : sv.Mimics sv' R P) (h : Alike R w w') (id : Caller)
    (ticket : Ticket Job) (hP : P (w.takeTurn sv l id ticket).state) :
    Alike R (w.takeTurn sv l id ticket) (w'.takeTurn sv' l id ticket) := by
  obtain ⟨t', rfl, hR⟩ := h
  cases ticket with
  | delay short => exact ⟨t', rfl, hR⟩
  | job j =>
    simp only [Turnstile.takeTurn, withState, hm.keepsShort, hm.clock] at hP ⊢
    split at hP
    · rename_i p _
      have hpaced : Alike R { w with pace := p } { w with pace := p, state := t' } :=
        ⟨t', rfl, hR⟩
      exact hpaced.letIn hm id j hP
    · exact ⟨t', rfl, hR⟩

theorem Alike.poll (hm : sv.Mimics sv' R P) (h : Alike R w w') (id : Caller)
    (hP : P (w.poll sv l id).state) : Alike R (w.poll sv l id) (w'.poll sv' l id) := by
  have hstage : w'.stage = w.stage ∧ w'.line = w.line ∧ w'.now = w.now := by
    obtain ⟨t', rfl, _⟩ := h
    exact ⟨rfl, rfl, rfl⟩
  unfold Turnstile.poll at hP ⊢
  rw [hstage.1, hstage.2.1, hstage.2.2]
  split
  · rename_i ticket heq
    simp only [heq] at hP
    split
    · rename_i hhead
      rw [if_pos hhead] at hP
      exact h.takeTurn hm id ticket hP
    · exact h
  · rename_i j ready heq
    simp only [heq] at hP
    split
    · rename_i hready
      rw [if_pos hready] at hP
      exact h.letIn hm id j hP
    · exact h
  · rename_i y heq
    refine h.settle id ?_
    obtain ⟨t', rfl, hR⟩ := h
    exact hm.resume w.now y hR
  · exact h

theorem Alike.drop (hm : sv.Mimics sv' R P) (h : Alike R w w') (id : Caller) :
    Alike R (w.drop sv id) (w'.drop sv' id) := by
  obtain ⟨t', rfl, hR⟩ := h
  unfold Turnstile.drop
  rw [show (w.withState t').stage = w.stage from rfl]
  split
  · exact ⟨t', rfl, hR⟩
  · exact ⟨t', rfl, hR⟩
  · exact ⟨_, rfl, hm.abandon w.now _ hR⟩
  · exact ⟨t', rfl, hR⟩

theorem Alike.step (hm : sv.Mimics sv' R P) (h : Alike R w w') (e : Event Job)
    (hP : P (w.step sv l e).state) : Alike R (w.step sv l e) (w'.step sv' l e) := by
  cases e with
  | tick d =>
    obtain ⟨t', rfl, hR⟩ := h
    exact ⟨t', rfl, hR⟩
  | call id ticket => exact h.call hm id ticket
  | poll id => exact h.poll hm id hP
  | drop id => exact h.drop hm id

/-- The same events leave the turnstiles alike. -/
theorem Alike.run (hm : sv.Mimics sv' R P) (h : Alike R w w') {events : List (Event Job)}
    (hP : ∀ moment, moment <+: events → P (w.run sv l moment).state) :
    Alike R (w.run sv l events) (w'.run sv' l events) := by
  induction events using List.reverseRecOn with
  | nil => exact h
  | append_singleton events e ih =>
    have hbefore := ih fun moment hmoment => hP moment (hmoment.trans (List.prefix_append _ _))
    have hnow := hP _ (List.prefix_refl _)
    rw [run_concat] at hnow ⊢
    rw [run_concat]
    exact hbefore.step hm e hnow

/-- The callers can go on at the same moments. -/
theorem Alike.due_eq (hm : sv.Mimics sv' R P) (h : Alike R w w') (id : Caller) :
    w'.due sv' id = w.due sv id := by
  obtain ⟨t', rfl, hR⟩ := h
  unfold Turnstile.due
  rw [show (w.withState t').stage = w.stage from rfl]
  split
  · rfl
  · rfl
  · exact congrArg some (hm.due _ hR)
  · rfl

end Alike

end Turnstile

end AnidbClient
