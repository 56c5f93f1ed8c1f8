import AnidbClient.Turnstile
import Mathlib.Data.List.Induction

/-!
# What an event does at the turnstile

A property of every run is shown for every event, and an event does one of a dozen things.
`Turnstile.Move` lists them, each with the condition under which it happens, and `move_step`
says that the list is complete.  No later proof opens `step`, `poll` or `drop` again.

There are four groups.

* The fields of a turnstile after each of the small changes that events are made of.
* The moves.  `GoesIn` is the condition under which a caller is let in, and the pace that is
  remembered then; it is told apart because the handler of a session cares for it.
* The stages.  `Move.stage_cases` says that an event moves one caller at most, and where to.
* Runs.  `run_concat` adds an event at the end, and `run_induction` is the induction on the
  number of events that every invariant uses.
-/

namespace AnidbClient

/-- The caller has not been let in. -/
def Stage.isAhead {Job Stay Result : Type} : Stage Job Stay Result → Bool
  | .waiting _ | .pacing _ _ => true
  | _ => false

/-- The stages that a caller can come to, a newcomer from none. -/
def Stage.canBecome {Job Stay Result : Type} :
    Option (Stage Job Stay Result) → Stage Job Stay Result → Bool
  | none, .waiting _ | none, .left _ => true
  | some (.waiting _), .pacing _ _ => true
  | some (.waiting _), .inside _ | some (.pacing _ _), .inside _ => true
  | some (.inside _), .inside _ => true
  | some (.waiting _), .left _ | some (.pacing _ _), .left _ | some (.inside _), .left _ => true
  | some (.waiting _), .gone | some (.pacing _ _), .gone | some (.inside _), .gone => true
  | _, _ => false

/-- Nobody gets back in front of the turnstile. -/
theorem Stage.isAhead_of_canBecome {Job Stay Result : Type}
    {o : Option (Stage Job Stay Result)} {s : Stage Job Stay Result}
    (hbecome : canBecome o s = true) (hs : s.isAhead = true) : o.all isAhead = true := by
  rcases o with _ | t
  · rfl
  · cases t <;> cases s <;> simp_all [canBecome, isAhead]

/-- The stage of a caller that has looked at the shared state. -/
def Turn.stage {Job Stay Result : Type} : Turn Stay Result → Stage Job Stay Result
  | .staying y => .inside y
  | .leaving r => .left (.result r)

namespace Turnstile

variable {State Job Stay Result : Type}

/-- The caller has not come yet, or has not been let in. -/
def IsAhead (w : Turnstile State Job Stay Result) (id : Caller) : Prop :=
  (w.stage id).all Stage.isAhead = true

/-! ## The fields after a change -/

section Fields

variable (w : Turnstile State Job Stay Result) (id : Caller) (s : Stage Job Stay Result)

@[simp] theorem now_setStage : (w.setStage id s).now = w.now := rfl

@[simp] theorem pace_setStage : (w.setStage id s).pace = w.pace := rfl

@[simp] theorem line_setStage : (w.setStage id s).line = w.line := rfl

@[simp] theorem state_setStage : (w.setStage id s).state = w.state := rfl

theorem stage_setStage (k : Caller) :
    (w.setStage id s).stage k = if k = id then some s else w.stage k := rfl

@[simp] theorem stage_setStage_self : (w.setStage id s).stage id = some s := by
  rw [stage_setStage, if_pos rfl]

theorem stage_setStage_of_ne {k : Caller} (h : k ≠ id) :
    (w.setStage id s).stage k = w.stage k := by
  rw [stage_setStage, if_neg h]

/-- A stage that a caller is not put in is one that it had before. -/
theorem stage_of_setStage {v w : Turnstile State Job Stay Result} (hstage : v.stage = w.stage)
    {s t : Stage Job Stay Result} (hs : s ≠ t) {id k : Caller}
    (hk : (v.setStage id s).stage k = some t) : w.stage k = some t := by
  rw [stage_setStage, hstage] at hk
  split at hk
  · exact absurd (Option.some.inj hk) hs
  · exact hk

@[simp] theorem now_stepOut : (w.stepOut id).now = w.now := rfl

@[simp] theorem pace_stepOut : (w.stepOut id).pace = w.pace := rfl

@[simp] theorem line_stepOut : (w.stepOut id).line = w.line.erase id := rfl

@[simp] theorem stage_stepOut : (w.stepOut id).stage = w.stage := rfl

@[simp] theorem state_stepOut : (w.stepOut id).state = w.state := rfl

@[simp] theorem now_passOut : (w.passOut id).now = w.now := rfl

@[simp] theorem pace_passOut : (w.passOut id).pace = w.pace.stamp w.now := rfl

@[simp] theorem line_passOut : (w.passOut id).line = w.line.erase id := rfl

@[simp] theorem stage_passOut : (w.passOut id).stage = w.stage := rfl

@[simp] theorem state_passOut : (w.passOut id).state = w.state := rfl

theorem settle_staying (t : State) (y : Stay) :
    w.settle id (t, .staying y) = { w with state := t }.setStage id (.inside y) := rfl

theorem settle_leaving (t : State) (r : Result) :
    w.settle id (t, .leaving r) =
      ({ w with state := t }.passOut id).setStage id (.left (.result r)) := rfl

variable (turn : State × Turn Stay Result)

@[simp] theorem now_settle : (w.settle id turn).now = w.now := by
  obtain ⟨t, y | r⟩ := turn <;> rfl

@[simp] theorem state_settle : (w.settle id turn).state = turn.1 := by
  obtain ⟨t, y | r⟩ := turn <;> rfl

theorem stage_settle (k : Caller) :
    (w.settle id turn).stage k = if k = id then some turn.2.stage else w.stage k := by
  obtain ⟨t, y | r⟩ := turn <;> rfl

theorem stage_settle_of_ne {k : Caller} (h : k ≠ id) :
    (w.settle id turn).stage k = w.stage k := by
  rw [stage_settle, if_neg h]

/-- Whoever is inside after a caller has settled is that caller, or was there before. -/
theorem inside_settle {w : Turnstile State Job Stay Result} {id k : Caller}
    {turn : State × Turn Stay Result} {y : Stay}
    (hk : (w.settle id turn).stage k = some (.inside y)) :
    k = id ∧ turn.2 = .staying y ∨ k ≠ id ∧ w.stage k = some (.inside y) := by
  rw [stage_settle] at hk
  split at hk
  · rename_i heq
    obtain ⟨t, z | r⟩ := turn
    · cases hk
      exact .inl ⟨heq, rfl⟩
    · cases hk
  · rename_i hne
    exact .inr ⟨hne, hk⟩

end Fields

/-! ## The moves -/

variable (sv : Service State Job Stay Result) (l : Limits)

/-- The caller is let in when it looks whether it can go on, and this pace is remembered. -/
inductive GoesIn (w : Turnstile State Job Stay Result) (id : Caller) (j : Job) : Pace → Prop where
  /-- It has its turn and no delay to keep. -/
  | atOnce {p : Pace} (hstage : w.stage id = some (.waiting (.job j)))
      (hhead : w.line.head? = some id)
      (hturn : w.pace.nextTurn l w.now (sv.keepsShort j) = (p, none)) : GoesIn w id j p
  /-- It has kept its delay. -/
  | paced {ready : Instant} (hstage : w.stage id = some (.pacing j ready))
      (hready : ready ≤ w.now) : GoesIn w id j w.pace

/-- What one event does. -/
inductive Move (w : Turnstile State Job Stay Result) :
    Event Job → Turnstile State Job Stay Result → Prop where
  /-- Nobody is concerned, or the caller cannot go on. -/
  | rest (e : Event Job) : Move w e w
  | tick (d : Duration) : Move w (.tick d) { w with now := w.now + d }
  /-- A caller that asks for the delay gets in line. -/
  | ask {id : Caller} {short : Bool} (hnew : w.stage id = none) :
      Move w (.call id (.delay short))
        ({ w with line := w.line ++ [id] }.setStage id (.waiting (.delay short)))
  /-- A caller with a job is turned away. -/
  | refuse {id : Caller} {j : Job} {t : State} {r : Result} (hnew : w.stage id = none)
      (harrive : sv.arrive w.now j w.state = (t, some r)) :
      Move w (.call id (.job j)) ({ w with state := t }.setStage id (.left (.result r)))
  /-- A caller with a job gets in line. -/
  | queue {id : Caller} {j : Job} {t : State} (hnew : w.stage id = none)
      (harrive : sv.arrive w.now j w.state = (t, none)) :
      Move w (.call id (.job j))
        ({ w with state := t, line := w.line ++ [id] }.setStage id (.waiting (.job j)))
  /-- The caller at the head of the line is told the delay and leaves. -/
  | tell {id : Caller} {short : Bool} (hstage : w.stage id = some (.waiting (.delay short)))
      (hhead : w.line.head? = some id) :
      Move w (.poll id)
        ((w.stepOut id).setStage id (.left (.delay (w.pace.currentDelay l w.now short))))
  /-- The caller at the head of the line has its turn and starts to keep its delay. -/
  | pace {id : Caller} {j : Job} {p : Pace} {wait : Duration}
      (hstage : w.stage id = some (.waiting (.job j))) (hhead : w.line.head? = some id)
      (hturn : w.pace.nextTurn l w.now (sv.keepsShort j) = (p, some wait)) :
      Move w (.poll id)
        ({ w with pace := p }.setStage id (.pacing j (w.now + sv.clock.lasts wait)))
  /-- The caller is let in. -/
  | enter {id : Caller} {j : Job} {p : Pace} (hin : GoesIn sv l w id j p) :
      Move w (.poll id) ({ w with pace := p }.settle id (sv.enter w.now j w.state))
  /-- The caller inside goes on. -/
  | resume {id : Caller} {y : Stay} (hstage : w.stage id = some (.inside y)) :
      Move w (.poll id) (w.settle id (sv.resume w.now y w.state))
  /-- A caller in line is called away. -/
  | dropWaiting {id : Caller} {ticket : Ticket Job}
      (hstage : w.stage id = some (.waiting ticket)) :
      Move w (.drop id) ((w.stepOut id).setStage id .gone)
  /-- The caller that keeps its delay is called away. -/
  | dropPacing {id : Caller} {j : Job} {ready : Instant}
      (hstage : w.stage id = some (.pacing j ready)) :
      Move w (.drop id) ((w.passOut id).setStage id .gone)
  /-- The caller inside is called away. -/
  | dropInside {id : Caller} {y : Stay} (hstage : w.stage id = some (.inside y)) :
      Move w (.drop id)
        (({ w with state := sv.abandon w.now y w.state }.passOut id).setStage id .gone)

private theorem move_call (w : Turnstile State Job Stay Result) (id : Caller)
    (ticket : Ticket Job) : Move sv l w (.call id ticket) (w.call sv id ticket) := by
  unfold Turnstile.call
  split
  · exact .rest _
  · rename_i hsome
    have hnew : w.stage id = none := by simpa using hsome
    split
    · exact .ask hnew
    · rename_i j
      split
      · rename_i harrive
        exact .refuse hnew harrive
      · rename_i harrive
        exact .queue hnew harrive

private theorem move_poll (w : Turnstile State Job Stay Result) (id : Caller) :
    Move sv l w (.poll id) (w.poll sv l id) := by
  unfold poll
  split
  · rename_i ticket hstage
    split
    · rename_i hhead
      unfold takeTurn
      split
      · exact .tell hstage hhead
      · rename_i j
        split
        · rename_i hturn
          exact .enter (.atOnce hstage hhead hturn)
        · rename_i hturn
          exact .pace hstage hhead hturn
    · exact .rest _
  · rename_i hstage
    split
    · rename_i hready
      exact .enter (.paced hstage hready)
    · exact .rest _
  · rename_i hstage
    exact .resume hstage
  · exact .rest _

private theorem move_drop (w : Turnstile State Job Stay Result) (id : Caller) :
    Move sv l w (.drop id) (w.drop sv id) := by
  unfold drop
  split
  · rename_i hstage
    exact .dropWaiting hstage
  · rename_i hstage
    exact .dropPacing hstage
  · rename_i hstage
    exact .dropInside hstage
  · exact .rest _

/-- The moves are all that events do. -/
theorem move_step (w : Turnstile State Job Stay Result) (e : Event Job) :
    Move sv l w e (w.step sv l e) := by
  cases e with
  | tick d => exact .tick d
  | call id ticket => exact move_call sv l w id ticket
  | poll id => exact move_poll sv l w id
  | drop id => exact move_drop sv l w id

/-! ## The caller inside -/

section Inside

variable {w : Turnstile State Job Stay Result} {id : Caller} {y : Stay}

theorem poll_of_inside (hstage : w.stage id = some (.inside y)) :
    w.poll sv l id = w.settle id (sv.resume w.now y w.state) := by
  simp only [poll, hstage]

theorem drop_of_inside (hstage : w.stage id = some (.inside y)) :
    w.drop sv id =
      ({ w with state := sv.abandon w.now y w.state }.passOut id).setStage id .gone := by
  simp only [drop, hstage]

theorem drop_of_waiting {ticket : Ticket Job} (hstage : w.stage id = some (.waiting ticket)) :
    w.drop sv id = (w.stepOut id).setStage id .gone := by
  simp only [drop, hstage]

theorem drop_of_pacing {j : Job} {ready : Instant} (hstage : w.stage id = some (.pacing j ready)) :
    w.drop sv id = (w.passOut id).setStage id .gone := by
  simp only [drop, hstage]

/-- What a newcomer with a job meets. -/
theorem call_job_of_none {j : Job} (hnew : w.stage id = none) :
    w.call sv id (.job j) =
      match sv.arrive w.now j w.state with
      | (t, some r) => { w with state := t }.setStage id (.left (.result r))
      | (t, none) =>
        { w with state := t, line := w.line ++ [id] }.setStage id (.waiting (.job j)) := by
  unfold Turnstile.call
  rw [hnew]
  rfl

/-- The caller inside stays so while another one goes a stage further. -/
theorem stage_setStage_inside {v : Turnstile State Job Stay Result} {k : Caller}
    {s : Stage Job Stay Result} (hstage : v.stage id = some (.inside y))
    (hk : ∀ z, v.stage k ≠ some (.inside z)) :
    (v.setStage k s).stage id = some (.inside y) := by
  have hne : id ≠ k := by
    rintro rfl
    exact hk y hstage
  rw [stage_setStage_of_ne _ _ _ hne]
  exact hstage

/-- A newcomer meets the shared state when it arrives with a job. -/
theorem state_call_job (k : Caller) (j : Job) :
    (w.call sv k (.job j)).state =
      if w.stage k = none then (sv.arrive w.now j w.state).1 else w.state := by
  by_cases hnew : w.stage k = none
  · rw [if_pos hnew]
    simp only [Turnstile.call, hnew, Option.isSome_none, Bool.false_eq_true, if_false]
    split
    · rename_i harrive
      rw [harrive]
      rfl
    · rename_i harrive
      rw [harrive]
      rfl
  · rw [if_neg hnew]
    simp only [Turnstile.call, Option.isSome_iff_ne_none.2 hnew, if_true]

theorem state_call_delay (k : Caller) (short : Bool) :
    (w.call sv k (.delay short)).state = w.state := by
  unfold Turnstile.call
  split <;> rfl

end Inside

/-! ## Callers that go in -/

section Stages

variable {sv} {l} {w : Turnstile State Job Stay Result} {id : Caller}

theorem GoesIn.poll_eq {j : Job} {p : Pace} (hin : GoesIn sv l w id j p) :
    w.poll sv l id = { w with pace := p }.settle id (sv.enter w.now j w.state) := by
  cases hin with
  | atOnce hstage hhead hturn => simp only [poll, hstage, if_pos hhead, takeTurn, hturn, letIn]
  | paced hstage hready => simp only [poll, hstage, if_pos hready, letIn]

/-- Whoever is let in has not been let in before. -/
theorem GoesIn.isAhead {j : Job} {p : Pace} (hin : GoesIn sv l w id j p) : w.IsAhead id := by
  cases hin with
  | atOnce hstage _ _ => simp [IsAhead, hstage, Stage.isAhead]
  | paced hstage _ => simp [IsAhead, hstage, Stage.isAhead]

/-- A caller is let in with the job that it came for. -/
theorem GoesIn.job_eq {j j' : Job} {p p' : Pace} (hin : GoesIn sv l w id j p)
    (hin' : GoesIn sv l w id j' p') : j = j' := by
  cases hin with
  | atOnce hstage _ _ =>
    cases hin' with
    | atOnce hstage' _ _ =>
      rw [hstage] at hstage'
      cases hstage'
      rfl
    | paced hstage' _ =>
      rw [hstage] at hstage'
      cases hstage'
  | paced hstage _ =>
    cases hin' with
    | atOnce hstage' _ _ =>
      rw [hstage] at hstage'
      cases hstage'
    | paced hstage' _ =>
      rw [hstage] at hstage'
      cases hstage'
      rfl

theorem not_isAhead_settle (turn : State × Turn Stay Result) : ¬ (w.settle id turn).IsAhead id := by
  obtain ⟨t, y | r⟩ := turn
  · simp [settle_staying, IsAhead, Stage.isAhead]
  · simp [settle_leaving, IsAhead, Stage.isAhead]

/-! ## From stage to stage -/

/-- An event moves one caller at most, to a stage that it can come to. -/
theorem Move.stage_cases {e : Event Job} {w' : Turnstile State Job Stay Result}
    (hm : Move sv l w e w') :
    w'.stage = w.stage ∨ ∃ id s, Stage.canBecome (w.stage id) s = true ∧
      ∀ k, w'.stage k = if k = id then some s else w.stage k := by
  have hsettle : ∀ turn : Turn Stay Result, ∀ t : Stage Job Stay Result,
      (∀ y, Stage.canBecome (some t) (.inside y) = true) →
        (∀ o, Stage.canBecome (some t) (.left o) = true) →
          Stage.canBecome (some t) turn.stage = true := by
    rintro (y | r) t hinside hleft
    · exact hinside y
    · exact hleft _
  cases hm with
  | rest => exact .inl rfl
  | tick => exact .inl rfl
  | ask hnew => exact .inr ⟨_, _, by rw [hnew]; rfl, fun _ => rfl⟩
  | refuse hnew => exact .inr ⟨_, _, by rw [hnew]; rfl, fun _ => rfl⟩
  | queue hnew => exact .inr ⟨_, _, by rw [hnew]; rfl, fun _ => rfl⟩
  | tell hstage => exact .inr ⟨_, _, by rw [hstage]; rfl, fun _ => rfl⟩
  | pace hstage => exact .inr ⟨_, _, by rw [hstage]; rfl, fun _ => rfl⟩
  | @enter k j p hin =>
    refine .inr ⟨k, _, ?_, stage_settle { w with pace := p } k _⟩
    cases hin with
    | atOnce hstage _ _ => exact hstage ▸ hsettle _ _ (fun _ => rfl) (fun _ => rfl)
    | paced hstage _ => exact hstage ▸ hsettle _ _ (fun _ => rfl) (fun _ => rfl)
  | resume hstage =>
    exact .inr ⟨_, _, hstage ▸ hsettle _ _ (fun _ => rfl) (fun _ => rfl), stage_settle w _ _⟩
  | dropWaiting hstage => exact .inr ⟨_, _, by rw [hstage]; rfl, fun _ => rfl⟩
  | dropPacing hstage => exact .inr ⟨_, _, by rw [hstage]; rfl, fun _ => rfl⟩
  | dropInside hstage => exact .inr ⟨_, _, by rw [hstage]; rfl, fun _ => rfl⟩

/-- Nobody gets back in front of the turnstile. -/
theorem Move.isAhead {e : Event Job} {w' : Turnstile State Job Stay Result}
    (hm : Move sv l w e w') (hahead : w'.IsAhead id) : w.IsAhead id := by
  unfold IsAhead at hahead ⊢
  rcases hm.stage_cases with hsame | ⟨k, s, hbecome, hstage⟩
  · rw [← hsame]
    exact hahead
  · rw [hstage] at hahead
    split at hahead
    · rename_i heq
      rw [heq]
      exact Stage.isAhead_of_canBecome hbecome hahead
    · exact hahead

/-- Whoever has come is never forgotten. -/
theorem Move.stage_ne_none {e : Event Job} {w' : Turnstile State Job Stay Result}
    (hm : Move sv l w e w') (hid : w.stage id ≠ none) : w'.stage id ≠ none := by
  rcases hm.stage_cases with hsame | ⟨k, s, _, hstage⟩
  · rw [hsame]
    exact hid
  · rw [hstage]
    split
    · exact Option.some_ne_none s
    · exact hid

/-- What a caller has left with stays. -/
theorem Move.stage_left {e : Event Job} {w' : Turnstile State Job Stay Result}
    {o : Outcome Result} (hm : Move sv l w e w') (hleft : w.stage id = some (.left o)) :
    w'.stage id = some (.left o) := by
  rcases hm.stage_cases with hsame | ⟨k, s, hbecome, hstage⟩
  · rw [hsame]
    exact hleft
  · have hne : id ≠ k := by
      rintro rfl
      rw [hleft] at hbecome
      cases hbecome
    rw [hstage, if_neg hne]
    exact hleft

end Stages

/-! ## Runs -/

/-- Time goes on by ticks alone. -/
theorem now_step (w : Turnstile State Job Stay Result) (e : Event Job) :
    (w.step sv l e).now = w.now ∨ ∃ d, e = .tick d ∧ (w.step sv l e).now = w.now + d := by
  have hm := move_step sv l w e
  generalize w.step sv l e = w' at hm ⊢
  cases hm with
  | tick d => exact .inr ⟨d, rfl, rfl⟩
  | enter => exact .inl (now_settle _ _ _)
  | resume => exact .inl (now_settle _ _ _)
  | _ => exact .inl rfl

theorem run_append (w : Turnstile State Job Stay Result) (before later : List (Event Job)) :
    w.run sv l (before ++ later) = (w.run sv l before).run sv l later := by
  simp only [run, List.foldl_append]

theorem run_concat (w : Turnstile State Job Stay Result) (events : List (Event Job))
    (e : Event Job) : w.run sv l (events ++ [e]) = (w.run sv l events).step sv l e := by
  rw [run_append]
  rfl

/-- What holds at the start and is kept by every move holds after every run. -/
theorem run_induction {P : Turnstile State Job Stay Result → Prop}
    {w : Turnstile State Job Stay Result} (hstart : P w)
    (hmove : ∀ {v v' e}, P v → Move sv l v e v' → P v') (events : List (Event Job)) :
    P (w.run sv l events) := by
  induction events using List.reverseRecOn with
  | nil => exact hstart
  | append_singleton events e ih =>
    rw [run_concat]
    exact hmove ih (move_step sv l _ e)

end Turnstile

end AnidbClient
