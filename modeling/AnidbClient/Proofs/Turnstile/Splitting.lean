import AnidbClient.Proofs.Turnstile.Moves

/-!
# Going in by two steps

A service is split when a caller that is let in may stay for one more look, and does then what it
would have done at once (`Splits`).  Whatever comes of a run before the service comes of one before
the split service, too, in which nobody gets in between (`Splits.exists_run`).
-/

namespace AnidbClient

variable {State Job Stay Stay' Result : Type}

/-- How far a caller has come, in other words. -/
def Stage.map (f : Stay → Stay') : Stage Job Stay Result → Stage Job Stay' Result
  | .waiting ticket => .waiting ticket
  | .pacing j ready => .pacing j ready
  | .inside y => .inside (f y)
  | .left o => .left o
  | .gone => .gone

/-- Callers of the second service go in as those of the first one do, or with one more look. -/
structure Service.Splits (sv : Service State Job Stay Result)
    (sv' : Service State Job Stay' Result) (f : Stay → Stay') : Prop where
  clock : sv'.clock = sv.clock
  keepsShort : sv'.keepsShort = sv.keepsShort
  arrive : sv'.arrive = sv.arrive
  enter : ∀ now j t, sv'.enter now j t = Turn.rename f (sv.enter now j t) ∨
    ∃ t' z, sv'.enter now j t = (t', .staying z) ∧
      sv'.resume now z t' = Turn.rename f (sv.enter now j t)
  resume : ∀ now y t, sv'.resume now (f y) t = Turn.rename f (sv.resume now y t)
  abandon : ∀ now y t, sv'.abandon now (f y) t = sv.abandon now y t

namespace Turnstile

/-- The same turnstile, with what is inside in other words. -/
def map (f : Stay → Stay') (w : Turnstile State Job Stay Result) :
    Turnstile State Job Stay' Result :=
  { w with stage := fun k => (w.stage k).map (Stage.map f) }

section Map

variable (f : Stay → Stay') (w : Turnstile State Job Stay Result) (id : Caller)

theorem stage_map (k : Caller) : (w.map f).stage k = (w.stage k).map (Stage.map f) := rfl

theorem map_setStage (s : Stage Job Stay Result) :
    (w.setStage id s).map f = (w.map f).setStage id (s.map f) := by
  unfold map setStage
  congr 1
  funext k
  by_cases hk : k = id <;> simp [hk]

theorem map_settle (turn : State × Turn Stay Result) :
    (w.settle id turn).map f = (w.map f).settle id (Turn.rename f turn) := by
  obtain ⟨t, y | r⟩ := turn
  · exact map_setStage f _ id _
  · exact map_setStage f _ id _

/-- Only the last time counts that a caller settles. -/
theorem settle_settle (t : State) (y : Stay) (turn : State × Turn Stay Result) :
    (w.settle id (t, .staying y)).settle id turn = w.settle id turn := by
  have htwice : ∀ (v : Turnstile State Job Stay Result) (s s' : Stage Job Stay Result),
      (v.setStage id s).setStage id s' = v.setStage id s' := by
    intro v s s'
    unfold setStage
    congr 1
    funext k
    by_cases hk : k = id <;> simp [hk]
  obtain ⟨t', y' | r⟩ := turn
  · exact htwice { w with state := t' } (.inside y) _
  · exact htwice ({ w with state := t' }.passOut id) (.inside y) _

end Map

end Turnstile

namespace Service.Splits

open Turnstile

variable {sv : Service State Job Stay Result} {sv' : Service State Job Stay' Result}
  {f : Stay → Stay'} {l : Limits}

theorem call_map (h : sv.Splits sv' f) (w : Turnstile State Job Stay Result) (id : Caller)
    (ticket : Ticket Job) : (w.map f).call sv' id ticket = (w.call sv id ticket).map f := by
  cases hstage : w.stage id with
  | some s => simp [Turnstile.call, stage_map, hstage]
  | none =>
    have hnew : (w.map f).stage id = none := by rw [stage_map, hstage, Option.map_none]
    cases ticket with
    | delay short =>
      simp only [Turnstile.call, hnew, hstage, Option.isSome_none, Bool.false_eq_true, if_false]
      exact (map_setStage f { w with line := w.line ++ [id] } id (.waiting (.delay short))).symm
    | job j =>
      have harrive : sv'.arrive (w.map f).now j (w.map f).state = sv.arrive w.now j w.state := by
        rw [h.arrive]
        rfl
      rw [call_job_of_none sv' hnew, call_job_of_none sv hstage, harrive]
      generalize sv.arrive w.now j w.state = arrived
      obtain ⟨t, _ | r⟩ := arrived
      · let v := { w with state := t, line := w.line ++ [id] }
        exact (map_setStage f v id (.waiting (.job j))).symm
      · exact (map_setStage f { w with state := t } id (.left (.result r))).symm

theorem drop_map (h : sv.Splits sv' f) (w : Turnstile State Job Stay Result) (id : Caller) :
    (w.map f).drop sv' id = (w.drop sv id).map f := by
  cases hstage : w.stage id with
  | none => simp [drop, stage_map, hstage]
  | some s =>
    cases s with
    | waiting ticket =>
      simp only [drop, stage_map, hstage, Option.map_some, Stage.map]
      exact (map_setStage f (w.stepOut id) id .gone).symm
    | pacing j ready =>
      simp only [drop, stage_map, hstage, Option.map_some, Stage.map]
      exact (map_setStage f (w.passOut id) id .gone).symm
    | inside y =>
      have hstate := h.abandon w.now y w.state
      simp only [drop, stage_map, hstage, Option.map_some, Stage.map]
      show ({ w.map f with state := sv'.abandon w.now (f y) w.state }.passOut id).setStage id _ = _
      rw [hstate]
      let v := { w with state := sv.abandon w.now y w.state }
      exact (map_setStage f (v.passOut id) id .gone).symm
    | left o => simp [drop, stage_map, hstage, Stage.map]
    | gone => simp [drop, stage_map, hstage, Stage.map]

/-- Whoever is let in needs one look, or two. -/
theorem exists_run_letIn (h : sv.Splits sv' f) (w v : Turnstile State Job Stay Result)
    (id : Caller) (j : Job) (hpoll : (w.map f).poll sv' l id = (v.map f).letIn sv' id j) :
    ∃ events, (w.map f).run sv' l events = (v.letIn sv id j).map f := by
  unfold letIn at hpoll ⊢
  rw [map_settle]
  rcases h.enter v.now j v.state with hone | ⟨t, z, hfirst, hsecond⟩
  · refine ⟨[.poll id], ?_⟩
    show (w.map f).poll sv' l id = _
    rw [hpoll]
    exact congrArg _ hone
  · refine ⟨[.poll id, .poll id], ?_⟩
    show ((w.map f).poll sv' l id).poll sv' l id = _
    have hlooked : (w.map f).poll sv' l id = (v.map f).settle id (t, .staying z) := by
      rw [hpoll]
      exact congrArg _ hfirst
    have hinside : ((v.map f).settle id (t, .staying z)).stage id = some (.inside z) :=
      stage_setStage_self _ _ _
    rw [hlooked, poll_of_inside sv' l hinside, now_settle, state_settle, settle_settle]
    exact congrArg _ hsecond

/-- Whoever has its turn is let in, with one look or two, or starts to keep its delay. -/
theorem exists_run_takeTurn (h : sv.Splits sv' f) (w : Turnstile State Job Stay Result)
    (id : Caller) (j : Job)
    (hturn : (w.map f).poll sv' l id = (w.map f).takeTurn sv' l id (.job j)) :
    ∃ events, (w.map f).run sv' l events = (w.takeTurn sv l id (.job j)).map f := by
  have hpace : (w.map f).pace.nextTurn l (w.map f).now (sv'.keepsShort j) =
      w.pace.nextTurn l w.now (sv.keepsShort j) := by
    rw [h.keepsShort]
    rfl
  unfold takeTurn at hturn ⊢
  dsimp only at hturn ⊢
  rw [hpace] at hturn
  generalize w.pace.nextTurn l w.now (sv.keepsShort j) = turn at hturn ⊢
  obtain ⟨p, _ | wait⟩ := turn
  · exact h.exists_run_letIn w { w with pace := p } id j hturn
  · refine ⟨[.poll id], hturn.trans ?_⟩
    dsimp only
    rw [h.clock]
    exact (map_setStage f { w with pace := p } id (.pacing j _)).symm

theorem exists_run_poll (h : sv.Splits sv' f) (w : Turnstile State Job Stay Result) (id : Caller) :
    ∃ events, (w.map f).run sv' l events = (w.poll sv l id).map f := by
  have honce : ∀ {v : Turnstile State Job Stay Result}, (w.map f).poll sv' l id = v.map f →
      ∃ events, (w.map f).run sv' l events = v.map f := fun hpoll => ⟨[.poll id], hpoll⟩
  have hline : (w.map f).line = w.line := rfl
  have hnow : (w.map f).now = w.now := rfl
  cases hstage : w.stage id with
  | none => exact honce (by simp [poll, stage_map, hstage])
  | some s =>
    cases s with
    | waiting ticket =>
      simp only [poll, hstage]
      split
      · rename_i hhead
        cases ticket with
        | delay short =>
          refine honce ?_
          simp only [poll, stage_map, hstage, Option.map_some, Stage.map, hline, if_pos hhead]
          exact (map_setStage f (w.stepOut id) id (.left (.delay _))).symm
        | job j =>
          refine h.exists_run_takeTurn w id j ?_
          simp only [poll, stage_map, hstage, Option.map_some, Stage.map, hline, if_pos hhead]
      · rename_i hhead
        exact honce (by
          simp only [poll, stage_map, hstage, Option.map_some, Stage.map, hline, if_neg hhead])
    | pacing j ready =>
      simp only [poll, hstage]
      split
      · rename_i hready
        refine h.exists_run_letIn w w id j ?_
        simp only [poll, stage_map, hstage, Option.map_some, Stage.map, hnow, if_pos hready]
      · rename_i hready
        exact honce (by
          simp only [poll, stage_map, hstage, Option.map_some, Stage.map, hnow, if_neg hready])
    | inside y =>
      refine honce ?_
      have hinside : (w.map f).stage id = some (.inside (f y)) := by
        rw [stage_map, hstage]
        rfl
      rw [poll_of_inside sv' l hinside, poll_of_inside sv l hstage, map_settle]
      exact congrArg _ (h.resume w.now y w.state)
    | left o => exact honce (by simp [poll, stage_map, hstage, Stage.map])
    | gone => exact honce (by simp [poll, stage_map, hstage, Stage.map])

theorem exists_run_step (h : sv.Splits sv' f) (w : Turnstile State Job Stay Result)
    (e : Event Job) : ∃ events, (w.map f).run sv' l events = (w.step sv l e).map f := by
  cases e with
  | tick d => exact ⟨[.tick d], rfl⟩
  | call id ticket => exact ⟨[.call id ticket], h.call_map w id ticket⟩
  | poll id => exact h.exists_run_poll w id
  | drop id => exact ⟨[.drop id], h.drop_map w id⟩

/-- What comes of a run before the one service comes of a run before the other one, too. -/
theorem exists_run (h : sv.Splits sv' f) (w : Turnstile State Job Stay Result)
    (events : List (Event Job)) :
    ∃ events', (w.map f).run sv' l events' = (w.run sv l events).map f := by
  induction events using List.reverseRecOn with
  | nil => exact ⟨[], rfl⟩
  | append_singleton events e ih =>
    obtain ⟨before, hbefore⟩ := ih
    obtain ⟨last, hlast⟩ := h.exists_run_step (l := l) (w.run sv l events) e
    refine ⟨before ++ last, ?_⟩
    rw [run_append, run_concat, hbefore, hlast]

end Service.Splits

end AnidbClient
