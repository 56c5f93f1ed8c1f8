import AnidbClient.Proofs.Turnstile.Order

/-!
# What events do to the shared state

Of everything that happens at a turnstile only four things touch the state that callers share: a
caller arrives with a job, is let in, goes on inside, or is called away from there.  `Act` names
them, `Turnstile.act?` tells which of them an event is, and `state_step` says that an event changes
the shared state by its act and by nothing else.

Whatever has to hold in the middle of an event, and not only after it, is shown for acts.
`act?_eq_some_iff` tells when an act takes place, and `Acts.finds` who is inside then.

`Turnstile.record` writes something down at every event of a run.  What is written down is left
open; each law about the course of runs says what it needs.
-/

namespace AnidbClient

/-- What a caller does to the shared state. -/
inductive Act (Job Stay : Type) where
  | arrive (job : Job)
  | enter (job : Job)
  | resume (stay : Stay)
  | abandon (stay : Stay)
  deriving DecidableEq

variable {State Job Stay Result : Type}

/-- The shared state after an act. -/
def Service.perform (sv : Service State Job Stay Result) (now : Instant) (t : State) :
    Act Job Stay → State
  | .arrive j => (sv.arrive now j t).1
  | .enter j => (sv.enter now j t).1
  | .resume y => (sv.resume now y t).1
  | .abandon y => sv.abandon now y t

/-- The act can take place with this caller inside, or with nobody. -/
def Act.Finds (inside? : Option Stay) : Act Job Stay → Prop
  | .arrive _ => True
  | .enter _ => inside? = none
  | .resume y | .abandon y => inside? = some y

namespace Turnstile

variable (sv : Service State Job Stay Result) (l : Limits) (w : Turnstile State Job Stay Result)

/-- The act that an event is, if it is one. -/
def act? : Event Job → Option (Act Job Stay)
  | .tick _ => none
  | .call id (.job j) => if w.stage id = none then some (.arrive j) else none
  | .call _ (.delay _) => none
  | .poll id =>
    match w.stage id with
    | some (.waiting (.job j)) =>
      if w.line.head? = some id ∧ (w.pace.nextTurn l w.now (sv.keepsShort j)).2 = none then
        some (.enter j)
      else none
    | some (.pacing j ready) => if ready ≤ w.now then some (.enter j) else none
    | some (.inside y) => some (.resume y)
    | _ => none
  | .drop id =>
    match w.stage id with
    | some (.inside y) => some (.abandon y)
    | _ => none

/-- When an event is which act. -/
inductive Acts : Event Job → Act Job Stay → Prop where
  | arrive {id : Caller} {j : Job} (hnew : w.stage id = none) :
      Acts (.call id (.job j)) (.arrive j)
  | enter {id : Caller} {j : Job} {p : Pace} (hin : GoesIn sv l w id j p) :
      Acts (.poll id) (.enter j)
  | resume {id : Caller} {y : Stay} (hstage : w.stage id = some (.inside y)) :
      Acts (.poll id) (.resume y)
  | abandon {id : Caller} {y : Stay} (hstage : w.stage id = some (.inside y)) :
      Acts (.drop id) (.abandon y)

variable {sv} {l} {w} {e : Event Job} {a : Act Job Stay}

theorem act?_eq_some_iff : w.act? sv l e = some a ↔ Acts sv l w e a := by
  constructor
  · intro hact
    cases e with
    | tick d => cases hact
    | call id ticket =>
      cases ticket with
      | delay short => cases hact
      | job j =>
        simp only [act?, Option.ite_none_right_eq_some, Option.some.injEq] at hact
        obtain ⟨hnew, rfl⟩ := hact
        exact .arrive hnew
    | poll id =>
      simp only [act?] at hact
      split at hact
      · rename_i j hstage
        simp only [Option.ite_none_right_eq_some, Option.some.injEq] at hact
        obtain ⟨⟨hhead, hturn⟩, rfl⟩ := hact
        exact .enter (.atOnce hstage hhead (Prod.ext rfl hturn))
      · rename_i j ready hstage
        simp only [Option.ite_none_right_eq_some, Option.some.injEq] at hact
        obtain ⟨hready, rfl⟩ := hact
        exact .enter (.paced hstage hready)
      · rename_i y hstage
        cases hact
        exact .resume hstage
      · cases hact
    | drop id =>
      simp only [act?] at hact
      split at hact
      · rename_i y hstage
        cases hact
        exact .abandon hstage
      · cases hact
  · intro hacts
    cases hacts with
    | arrive hnew => simp [act?, hnew]
    | enter hin =>
      cases hin with
      | atOnce hstage hhead hturn => simp [act?, hstage, hhead, hturn]
      | paced hstage hready => simp [act?, hstage, hready]
    | resume hstage => simp only [act?, hstage]
    | abandon hstage => simp only [act?, hstage]

/-- Nobody is inside when a caller is let in, and whoever goes on or is called away from inside is
the one who is there. -/
theorem Acts.finds (hacts : Acts sv l w e a) (hw : w.Orderly) : a.Finds w.inside? := by
  cases hacts with
  | arrive => trivial
  | enter hin => exact hin.inside? hw
  | resume hstage => exact hw.inside?_of_inside hstage
  | abandon hstage => exact hw.inside?_of_inside hstage

/-- Nobody else is inside when a caller is let in or goes on. -/
theorem Acts.eq_of_inside {id k : Caller} {y : Stay} (hacts : Acts sv l w (.poll id) a)
    (hw : w.Orderly) (hk : w.stage k = some (.inside y)) : k = id := by
  cases hacts with
  | enter hin =>
    have hinside := hin.inside? hw
    rw [hw.inside?_of_inside hk] at hinside
    cases hinside
  | resume hstage => exact hw.eq_of_inside hstage hk

theorem Acts.state_step (hacts : Acts sv l w e a) :
    (w.step sv l e).state = sv.perform w.now w.state a := by
  cases hacts with
  | @arrive id j hnew =>
    show (w.call sv id (.job j)).state = _
    rw [state_call_job, if_pos hnew]
    rfl
  | @enter id j p hin =>
    show (w.poll sv l id).state = _
    rw [hin.poll_eq, state_settle]
    rfl
  | @resume id y hstage =>
    show (w.poll sv l id).state = _
    rw [poll_of_inside sv l hstage, state_settle]
    rfl
  | @abandon id y hstage =>
    show (w.drop sv id).state = _
    rw [drop_of_inside sv hstage]
    rfl

/-- An event that is no act leaves the shared state alone. -/
theorem state_step_of_no_act (hnone : w.act? sv l e = none) :
    (w.step sv l e).state = w.state := by
  have hnot : ∀ a, ¬ Acts sv l w e a := by
    intro a hacts
    rw [act?_eq_some_iff.2 hacts] at hnone
    cases hnone
  have hm := move_step sv l w e
  generalize w.step sv l e = w' at hm ⊢
  cases hm with
  | refuse hnew => exact absurd (.arrive hnew) (hnot _)
  | queue hnew => exact absurd (.arrive hnew) (hnot _)
  | enter hin => exact absurd (.enter hin) (hnot _)
  | resume hstage => exact absurd (.resume hstage) (hnot _)
  | dropInside hstage => exact absurd (.abandon hstage) (hnot _)
  | _ => rfl

/-- An event changes the shared state by its act. -/
theorem state_step (w : Turnstile State Job Stay Result) (e : Event Job) :
    (w.step sv l e).state = (w.act? sv l e).elim w.state (sv.perform w.now w.state) := by
  cases hact : w.act? sv l e with
  | none => exact state_step_of_no_act hact
  | some a => exact (act?_eq_some_iff.1 hact).state_step

/-! ## Writing things down -/

/-- What has been written down after some events, where `note` adds to it at every event. -/
def record {α : Type} (sv : Service State Job Stay Result) (l : Limits)
    (note : Turnstile State Job Stay Result → Event Job → α → α)
    (w : Turnstile State Job Stay Result) (start : α) (events : List (Event Job)) : α :=
  (events.foldl (fun s e => (s.1.step sv l e, note s.1 e s.2)) (w, start)).2

theorem record_concat {α : Type} (note : Turnstile State Job Stay Result → Event Job → α → α)
    (w : Turnstile State Job Stay Result) (start : α) (events : List (Event Job)) (e : Event Job) :
    record sv l note w start (events ++ [e]) =
      note (w.run sv l events) e (record sv l note w start events) := by
  have hfst : ∀ s : Turnstile State Job Stay Result × α,
      (events.foldl (fun s e => (s.1.step sv l e, note s.1 e s.2)) s).1 = s.1.run sv l events := by
    induction events with
    | nil => exact fun _ => rfl
    | cons first rest ih => exact fun s => ih (s.1.step sv l first, note s.1 first s.2)
  unfold record
  rw [List.foldl_append, List.foldl_cons, List.foldl_nil, hfst]

end Turnstile

end AnidbClient
