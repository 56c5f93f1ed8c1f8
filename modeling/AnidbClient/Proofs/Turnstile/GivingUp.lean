import AnidbClient.Chore
import AnidbClient.Proofs.Session.Runs
import AnidbClient.Proofs.Turnstile.Visits

/-!
# Giving up in line

A caller that is called away while it waits in line leaves no trace: the run is the same as if it
had never come.  One that is called away after it had its turn leaves the moment behind as that of
the last packet.

Somebody is first in line from the moment at which the one before leaves, though, and not only when
it looks.  Who looks in the meantime looks in vain, and would have had its turn without the caller
that never looked (`start_delayed_of_stalled`).  So it is these looks that have to be taken away
together with the caller, if there are any.

There are four groups.

* `Turnstile.without` is the turnstile as if a caller had never come.  What the others do commutes
  with it (`without_step`), and what the caller itself does while it is `Aside` is not seen through
  it (`without_step_self`).
* `unhindered` takes the events of the caller out of a run, and the looks that were in vain because
  of it; what is left gives the same run without the caller (`run_unhindered`).
* A caller that is called away in line was aside all the time (`aside_drop`), and there were no
  looks in vain if it did not hold up anybody (`unhindered_drop_eq`).
* `Forgets` is the law, for any service at which a newcomer that gets in line touches nothing, and
  `forgets_quitters` is the law for chores and for sessions.
-/

namespace AnidbClient

variable {State Job Stay Result : Type}

/-- The caller that an event is about. -/
def Event.caller? : Event Job → Option Caller
  | .tick _ => none
  | .call id _ | .poll id | .drop id => some id

/-- The caller waits in line, or has left it and done no job. -/
def Stage.isAside : Stage Job Stay Result → Bool
  | .waiting _ | .left (.delay _) | .gone => true
  | _ => false

/-- A newcomer that gets in line with the job touches nothing. -/
def Service.PassesQuietly (sv : Service State Job Stay Result) (j : Job) : Prop :=
  ∀ now t t', sv.arrive now j t = (t', none) → t' = t

namespace Turnstile

/-- The events that are not about the caller. -/
def others (k : Caller) (events : List (Event Job)) : List (Event Job) :=
  events.filter (·.caller? != some k)

/-- The turnstile as if the caller had never come. -/
def without (w : Turnstile State Job Stay Result) (k : Caller) : Turnstile State Job Stay Result :=
  { w with
    line := w.line.erase k
    stage := fun id => if id = k then none else w.stage id }

/-! ## The others -/

section Without

variable {w : Turnstile State Job Stay Result} {k id : Caller}

@[simp] theorem now_without (w : Turnstile State Job Stay Result) (k : Caller) :
    (w.without k).now = w.now := rfl

@[simp] theorem pace_without (w : Turnstile State Job Stay Result) (k : Caller) :
    (w.without k).pace = w.pace := rfl

@[simp] theorem state_without (w : Turnstile State Job Stay Result) (k : Caller) :
    (w.without k).state = w.state := rfl

theorem stage_without_of_ne (hid : id ≠ k) : (w.without k).stage id = w.stage id :=
  if_neg hid

theorem without_setStage (hid : id ≠ k) (s : Stage Job Stay Result) :
    (w.setStage id s).without k = (w.without k).setStage id s := by
  unfold without setStage
  congr 1
  funext j
  by_cases hj : j = id
  · simp [hj, hid]
  · simp [hj]

theorem without_stepOut : (w.stepOut id).without k = (w.without k).stepOut id := by
  unfold without stepOut
  congr 1
  exact List.erase_comm (a := id) (b := k)

theorem without_passOut : (w.passOut id).without k = (w.without k).passOut id := by
  unfold passOut
  rw [← without_stepOut]
  rfl

theorem without_settle (hid : id ≠ k) (turn : State × Turn Stay Result) :
    (w.settle id turn).without k = (w.without k).settle id turn := by
  obtain ⟨t, y | r⟩ := turn
  · rw [settle_staying, settle_staying, without_setStage hid]
    rfl
  · rw [settle_leaving, settle_leaving, without_setStage hid, without_passOut]
    rfl

/-- Somebody else gets in line. -/
theorem line_join (hid : id ≠ k) (line : List Caller) :
    (line ++ [id]).erase k = line.erase k ++ [id] := by
  by_cases hk : k ∈ line
  · exact List.erase_append_left [id] hk
  · rw [List.erase_append_right [id] hk, List.erase_of_not_mem hk,
      List.erase_of_not_mem (by simpa using hid.symm)]

/-- The first one stays first when somebody behind it is not there. -/
theorem head?_without (hfirst : w.line.head? ≠ some k) :
    (w.without k).line.head? = w.line.head? := by
  show (w.line.erase k).head? = _
  cases hline : w.line with
  | nil => rfl
  | cons first rest =>
    have hne : first ≠ k := by
      rintro rfl
      rw [hline] at hfirst
      exact hfirst rfl
    rw [List.erase_cons_tail (by simpa using hne)]
    rfl

variable (sv : Service State Job Stay Result) (l : Limits)

theorem without_call (hid : id ≠ k) (ticket : Ticket Job) :
    (w.call sv id ticket).without k = (w.without k).call sv id ticket := by
  have hjoin : ∀ (t : State) (s : Stage Job Stay Result),
      ({ w with state := t, line := w.line ++ [id] }.setStage id s).without k =
        { w.without k with state := t, line := (w.without k).line ++ [id] }.setStage id s := by
    intro t s
    rw [without_setStage hid]
    unfold without
    rw [line_join hid]
  unfold Turnstile.call
  rw [stage_without_of_ne hid]
  split
  · rfl
  · cases ticket with
    | delay short => exact hjoin w.state _
    | job j =>
      rw [now_without, state_without]
      dsimp only
      generalize sv.arrive w.now j w.state = arrived
      obtain ⟨t, _ | r⟩ := arrived
      · exact hjoin t _
      · exact without_setStage hid _

theorem without_letIn (hid : id ≠ k) (j : Job) :
    (w.letIn sv id j).without k = (w.without k).letIn sv id j :=
  without_settle hid _

theorem without_takeTurn (hid : id ≠ k) (ticket : Ticket Job) :
    (w.takeTurn sv l id ticket).without k = (w.without k).takeTurn sv l id ticket := by
  cases ticket with
  | delay short =>
    show ((w.stepOut id).setStage id _).without k = ((w.without k).stepOut id).setStage id _
    rw [without_setStage hid, without_stepOut]
    rfl
  | job j =>
    unfold takeTurn
    rw [now_without, pace_without]
    dsimp only
    generalize w.pace.nextTurn l w.now (sv.keepsShort j) = turn
    obtain ⟨p, _ | wait⟩ := turn
    · exact without_letIn sv hid j
    · exact without_setStage hid _

theorem without_poll (hid : id ≠ k) (hfirst : w.line.head? ≠ some k) :
    (w.poll sv l id).without k = (w.without k).poll sv l id := by
  unfold poll
  rw [stage_without_of_ne hid, head?_without hfirst, now_without]
  split
  · split
    · exact without_takeTurn sv l hid _
    · rfl
  · split
    · exact without_letIn sv hid _
    · rfl
  · exact without_settle hid _
  · rfl

theorem without_drop (hid : id ≠ k) :
    (w.drop sv id).without k = (w.without k).drop sv id := by
  unfold drop
  rw [stage_without_of_ne hid]
  split
  · rw [without_setStage hid, without_stepOut]
  · rw [without_setStage hid, without_passOut]
  · rw [without_setStage hid, without_passOut]
    rfl
  · rfl

/-- What the others do is the same without the caller, as long as nobody waits for it. -/
theorem without_step {e : Event Job} (hother : e.caller? ≠ some k)
    (hfirst : ∀ id, e = .poll id → w.line.head? ≠ some k) :
    (w.step sv l e).without k = (w.without k).step sv l e := by
  cases e with
  | tick d => rfl
  | call id ticket => exact without_call sv (fun h => hother (congrArg some h)) ticket
  | poll id => exact without_poll sv l (fun h => hother (congrArg some h)) (hfirst id rfl)
  | drop id => exact without_drop sv (fun h => hother (congrArg some h))

/-- Where the caller is does not matter without it. -/
theorem without_setStage_self (w : Turnstile State Job Stay Result) (k : Caller)
    (s : Stage Job Stay Result) : (w.setStage k s).without k = w.without k := by
  unfold without setStage
  congr 1
  funext j
  by_cases hj : j = k <;> simp [hj]

theorem Orderly.without_join (hw : w.Orderly) (hnew : w.stage k = none) :
    { w with line := w.line ++ [k] }.without k = w.without k := by
  have hk : k ∉ w.line := hw.not_mem_line hnew
  unfold without
  rw [List.erase_append_right [k] hk, List.erase_of_not_mem hk, List.erase_cons_head,
    List.append_nil]

theorem Orderly.without_stepOut (hw : w.Orderly) : (w.stepOut k).without k = w.without k := by
  have hk : k ∉ w.line.erase k := hw.nodup.not_mem_erase
  unfold without stepOut
  rw [List.erase_of_not_mem hk]

theorem not_isAside_settle (turn : State × Turn Stay Result) :
    ¬ ((w.settle k turn).stage k).all Stage.isAside = true := by
  obtain ⟨t, y | r⟩ := turn <;> simp [settle_staying, settle_leaving, Stage.isAside]

theorem not_isAside_takeTurn (j : Job) :
    ¬ ((w.takeTurn sv l k (.job j)).stage k).all Stage.isAside = true := by
  unfold takeTurn
  dsimp only
  split
  · exact not_isAside_settle _
  · simp [Stage.isAside]

/-- What the caller itself does is not seen while it is aside. -/
theorem without_step_self (hw : w.Orderly) {e : Event Job} (hself : e.caller? = some k)
    (hquiet : ∀ j, e = .call k (.job j) → sv.PassesQuietly j)
    (hbefore : (w.stage k).all Stage.isAside = true)
    (hafter : ((w.step sv l e).stage k).all Stage.isAside = true) :
    (w.step sv l e).without k = w.without k := by
  have hset : ∀ {v : Turnstile State Job Stay Result} {s : Stage Job Stay Result},
      ((v.setStage k s).stage k).all Stage.isAside = true → s.isAside = true := by
    intro v s h
    rw [stage_setStage_self] at h
    exact h
  have hm := move_step sv l w e
  generalize w.step sv l e = w' at hm hafter ⊢
  cases hm with
  | rest => rfl
  | tick => cases hself
  | ask hnew =>
    obtain rfl := Option.some.inj hself
    exact (without_setStage_self _ _ _).trans (hw.without_join hnew)
  | refuse =>
    obtain rfl := Option.some.inj hself
    cases hset hafter
  | queue hnew harrive =>
    obtain rfl := Option.some.inj hself
    obtain rfl := hquiet _ rfl _ _ _ harrive
    exact (without_setStage_self _ _ _).trans (hw.without_join hnew)
  | tell =>
    obtain rfl := Option.some.inj hself
    exact (without_setStage_self _ _ _).trans hw.without_stepOut
  | pace =>
    obtain rfl := Option.some.inj hself
    cases hset hafter
  | enter =>
    obtain rfl := Option.some.inj hself
    exact absurd hafter (not_isAside_settle _)
  | resume =>
    obtain rfl := Option.some.inj hself
    exact absurd hafter (not_isAside_settle _)
  | dropWaiting =>
    obtain rfl := Option.some.inj hself
    exact (without_setStage_self _ _ _).trans hw.without_stepOut
  | dropPacing hstage =>
    obtain rfl := Option.some.inj hself
    rw [hstage] at hbefore
    cases hbefore
  | dropInside hstage =>
    obtain rfl := Option.some.inj hself
    rw [hstage] at hbefore
    cases hbefore

theorem poll_of_first {ticket : Ticket Job} (hstage : w.stage k = some (.waiting ticket))
    (hhead : w.line.head? = some k) : w.poll sv l k = w.takeTurn sv l k ticket := by
  simp only [poll, hstage, if_pos hhead]

/-- Whoever has its turn is not aside any more. -/
theorem turn?_eq_none_of_isAside {e : Event Job} (hself : e.caller? = some k)
    (hafter : ((w.step sv l e).stage k).all Stage.isAside = true) : w.turn? e = none := by
  cases hturn : w.turn? e with
  | none => rfl
  | some turn =>
    obtain ⟨id, j⟩ := turn
    obtain ⟨rfl, hstage, hhead⟩ := turn?_eq_some_iff.1 hturn
    obtain rfl := Option.some.inj hself
    have hpoll : w.step sv l (.poll id) = w.takeTurn sv l id (.job j) :=
      poll_of_first sv l hstage hhead
    rw [hpoll] at hafter
    exact absurd hafter (not_isAside_takeTurn sv l j)

end Without

/-! ## Visits without a caller -/

section Visits

variable {sv : Service State Job Stay Result} {l : Limits} {w : Turnstile State Job Stay Result}
  {k : Caller} {e : Event Job} {vs : List Visit}

theorem follow_without {v : Visit} (hv : v.caller ≠ k) : (w.without k).follow v = w.follow v := by
  unfold follow
  rw [stage_without_of_ne hv, now_without]

theorem turn?_without (hother : e.caller? ≠ some k)
    (hfirst : ∀ id, e = .poll id → w.line.head? ≠ some k) : (w.without k).turn? e = w.turn? e := by
  cases e with
  | poll id =>
    unfold turn?
    dsimp only
    rw [stage_without_of_ne fun h => hother (congrArg some h), head?_without (hfirst id rfl)]
  | _ => rfl

/-- Nobody has its turn by an event of somebody else. -/
theorem caller?_of_turn? {id : Caller} {j : Job} (hturn : w.turn? e = some (id, j)) :
    e.caller? = some id := by
  obtain ⟨rfl, -, -⟩ := turn?_eq_some_iff.1 hturn
  rfl

/-- A visit that is written down is one from before, or that of the caller that has its turn. -/
theorem caller_of_mem_noteVisits {v : Visit} (hv : v ∈ noteVisits sv l w e vs) :
    e.caller? = some v.caller ∨ ∃ u ∈ vs, u.caller = v.caller := by
  unfold noteVisits at hv
  obtain ⟨u, hu, rfl⟩ := List.mem_map.1 hv
  rcases List.mem_append.1 hu with hu | hu
  · obtain ⟨⟨id, j⟩, hturn, rfl⟩ := List.mem_map.1 hu
    exact .inl (caller?_of_turn? (Option.mem_toList.1 hturn))
  · exact .inr ⟨u, hu, rfl⟩

theorem noteVisits_without (hother : e.caller? ≠ some k)
    (hfirst : ∀ id, e = .poll id → w.line.head? ≠ some k) (hvs : ∀ v ∈ vs, v.caller ≠ k) :
    noteVisits sv l (w.without k) e vs = noteVisits sv l w e vs := by
  unfold noteVisits
  rw [turn?_without hother hfirst, ← without_step sv l hother hfirst, now_without]
  apply List.map_congr_left
  intro v hv
  apply follow_without
  rcases List.mem_append.1 hv with hv | hv
  · obtain ⟨⟨id, j⟩, hturn, rfl⟩ := List.mem_map.1 hv
    rintro rfl
    exact hother (caller?_of_turn? (Option.mem_toList.1 hturn))
  · exact hvs v hv

/-- Nothing is written down where nobody has a turn, and without the caller nothing is seen. -/
theorem noteVisits_unseen (hnone : w.turn? e = none)
    (hsame : (w.step sv l e).without k = w.without k) (hvs : ∀ v ∈ vs, v.caller ≠ k)
    (hfollows : ∀ v ∈ vs, w.follow v = v) : noteVisits sv l w e vs = vs := by
  rw [noteVisits_of_no_turn hnone]
  have hfollow : ∀ v ∈ vs, (w.step sv l e).follow v = v := by
    intro v hv
    rw [← follow_without (hvs v hv), hsame, follow_without (hvs v hv), hfollows v hv]
  rw [List.map_congr_left hfollow, List.map_id']

end Visits

/-! ## Runs without a caller -/

section Runs

/-- The event is about the caller, or somebody looks in vain while the caller is first in line. -/
def isIdle (w : Turnstile State Job Stay Result) (k : Caller) : Event Job → Bool
  | .poll id => id == k || w.line.head? == some k
  | e => e.caller? == some k

variable (sv : Service State Job Stay Result) (l : Limits) (w : Turnstile State Job Stay Result)
  (k : Caller)

/-- The events that do something to the others. -/
def unhindered (events : List (Event Job)) : List (Event Job) :=
  record sv l (fun v e es => if v.isIdle k e then es else es ++ [e]) w [] events

/-- Somebody else looked whether it can go on while the caller was first in line. -/
def HoldsUp (events : List (Event Job)) : Prop :=
  ∃ earlier id, id ≠ k ∧ earlier ++ [.poll id] <+: events ∧
    (w.run sv l earlier).line.head? = some k

/-- The caller does no job: at every moment of the run it has not come, waits in line, or has left
it.  When it came it touched nothing. -/
structure Aside (events : List (Event Job)) : Prop where
  outside : ∀ moment, moment <+: events → ((w.run sv l moment).stage k).all Stage.isAside = true
  quiet : ∀ j, .call k (.job j) ∈ events → sv.PassesQuietly j

theorem unhindered_concat (events : List (Event Job)) (e : Event Job) :
    unhindered sv l w k (events ++ [e]) =
      if (w.run sv l events).isIdle k e then unhindered sv l w k events
      else unhindered sv l w k events ++ [e] :=
  record_concat _ _ _ _ _

variable {sv l w k} {e : Event Job} {events moment : List (Event Job)}

theorem isIdle_of_caller (hself : e.caller? = some k) : w.isIdle k e = true := by
  cases e with
  | poll id =>
    obtain rfl := Option.some.inj hself
    simp [isIdle]
  | _ => exact beq_iff_eq.2 hself

/-- An event that does something does it to somebody else, and nobody looks while the caller is
first. -/
theorem isIdle_eq_false_iff : w.isIdle k e = false ↔
    e.caller? ≠ some k ∧ ∀ id, e = .poll id → w.line.head? ≠ some k := by
  cases e with
  | poll id => simp [isIdle, Event.caller?]
  | _ => simp [isIdle]

theorem without_opened (t : State) (k : Caller) :
    (opened t : Turnstile State Job Stay Result).without k = opened t := by
  unfold without opened
  simp

theorem others_concat (k : Caller) (events : List (Event Job)) (e : Event Job) :
    others k (events ++ [e]) =
      if e.caller? = some k then others k events else others k events ++ [e] := by
  unfold others
  by_cases hself : e.caller? = some k <;> simp [hself]

/-- Where the caller holds up nobody, only its own events are taken away. -/
theorem unhindered_eq_others (hfree : ¬ HoldsUp sv l w k events) :
    unhindered sv l w k events = others k events := by
  induction events using List.reverseRecOn with
  | nil => rfl
  | append_singleton events e ih =>
    have hbefore : ¬ HoldsUp sv l w k events := by
      rintro ⟨earlier, id, hid, hlook, hhead⟩
      exact hfree ⟨earlier, id, hid, hlook.trans (List.prefix_append _ _), hhead⟩
    rw [unhindered_concat, others_concat, ih hbefore]
    by_cases hself : e.caller? = some k
    · rw [isIdle_of_caller hself, if_pos rfl, if_pos hself]
    · have hkept : (w.run sv l events).isIdle k e = false := by
        refine isIdle_eq_false_iff.2 ⟨hself, ?_⟩
        rintro id rfl hhead
        exact hfree ⟨events, id, fun heq => hself (congrArg some heq), List.prefix_refl _, hhead⟩
      rw [hkept, if_neg Bool.false_ne_true, if_neg hself]

theorem Aside.earlier (h : Aside sv l w k events) (hmoment : moment <+: events) :
    Aside sv l w k moment where
  outside m hm := h.outside m (hm.trans hmoment)
  quiet j hj := h.quiet j (hmoment.subset hj)

/-- Whoever looks while somebody else is first looks in vain. -/
theorem Orderly.poll_in_vain (sv : Service State Job Stay Result) (l : Limits) {id : Caller}
    (hw : w.Orderly) (hhead : w.line.head? = some k) (hne : id ≠ k) :
    w.step sv l (.poll id) = w ∧ w.turn? (.poll id) = none := by
  have hnot : w.line.head? ≠ some id := by
    rw [hhead]
    exact fun heq => hne (Option.some.inj heq).symm
  refine ⟨hw.poll_of_not_first hnot sv l, ?_⟩
  cases hturn : w.turn? (.poll id) with
  | none => rfl
  | some turn =>
    obtain ⟨heq, -, hhead'⟩ := turn?_eq_some_iff.1 hturn
    cases heq
    exact absurd hhead' hnot

/-- What is taken out of a run is not seen without the caller, and nobody has its turn by it. -/
theorem Aside.step_idle (h : Aside sv l w k (events ++ [e])) (hw : w.Orderly)
    (hidle : (w.run sv l events).isIdle k e = true) :
    ((w.run sv l events).step sv l e).without k = (w.run sv l events).without k ∧
      (w.run sv l events).turn? e = none := by
  have horderly := orderly_run sv l hw events
  by_cases hself : e.caller? = some k
  · have hbefore := h.outside events (List.prefix_append _ _)
    have hafter := h.outside (events ++ [e]) (List.prefix_refl _)
    rw [run_concat] at hafter
    have hquiet : ∀ j, e = .call k (.job j) → sv.PassesQuietly j := by
      rintro j rfl
      exact h.quiet j (List.mem_append_right _ List.mem_cons_self)
    exact ⟨without_step_self sv l horderly hself hquiet hbefore hafter,
      turn?_eq_none_of_isAside sv l hself hafter⟩
  · cases e with
    | poll id =>
      have hne : id ≠ k := fun heq => hself (congrArg some heq)
      have hhead : (w.run sv l events).line.head? = some k := by simpa [isIdle, hne] using hidle
      obtain ⟨hsame, hnone⟩ := horderly.poll_in_vain sv l hhead hne
      exact ⟨congrArg (·.without k) hsame, hnone⟩
    | _ => exact absurd (beq_iff_eq.1 hidle) hself

/-- The run is the same without the caller, and so is who has its turn, and when. -/
theorem run_unhindered (t : State) (h : Aside sv l (opened t) k events) :
    (opened t).run sv l (unhindered sv l (opened t) k events) =
        ((opened t).run sv l events).without k ∧
      visits sv l (opened t) (unhindered sv l (opened t) k events) =
        visits sv l (opened t) events ∧
      ∀ v ∈ visits sv l (opened t) events, v.caller ≠ k := by
  induction events using List.reverseRecOn with
  | nil => exact ⟨(without_opened t k).symm, rfl, fun v hv => by cases hv⟩
  | append_singleton events e ih =>
    obtain ⟨hrun, hvisits, hcallers⟩ := ih (h.earlier (List.prefix_append _ _))
    rw [unhindered_concat, visits_concat, run_concat]
    cases hidle : ((opened t).run sv l events).isIdle k e with
    | true =>
      obtain ⟨hsame, hnone⟩ := h.step_idle (orderly_opened t) hidle
      rw [noteVisits_unseen hnone hsame hcallers (tracks_run sv l t events).follows, hsame]
      exact ⟨hrun, hvisits, hcallers⟩
    | false =>
      obtain ⟨hother, hfirst⟩ := isIdle_eq_false_iff.1 hidle
      rw [if_neg Bool.false_ne_true, run_concat, visits_concat, hrun, hvisits,
        noteVisits_without hother hfirst hcallers, without_step sv l hother hfirst]
      refine ⟨rfl, rfl, ?_⟩
      rintro v hv rfl
      rcases caller_of_mem_noteVisits hv with hmine | ⟨u, hu, hcaller⟩
      · exact hother hmine
      · exact hcallers u hu hcaller

end Runs

/-! ## A caller that is called away in line -/

section Drop

variable {sv : Service State Job Stay Result} {l : Limits} {w w' : Turnstile State Job Stay Result}
  {k : Caller} {e : Event Job} {events before later moment : List (Event Job)}
  {ticket : Ticket Job}

/-- Whoever waits has just come, or waited before. -/
theorem Move.of_waiting (hm : Move sv l w e w') (hwaits : w'.stage k = some (.waiting ticket)) :
    w.stage k = none ∨ w.stage k = some (.waiting ticket) := by
  rcases hm.stage_cases with hsame | ⟨id, s, hbecome, hstage⟩
  · exact .inr (hsame ▸ hwaits)
  · rw [hstage] at hwaits
    split at hwaits
    · rename_i hk
      obtain rfl := Option.some.inj hwaits
      rw [← hk] at hbecome
      generalize w.stage k = o at hbecome ⊢
      cases o with
      | none => exact .inl rfl
      | some t => cases t <;> cases hbecome
    · exact .inr hwaits

theorem of_run_waiting (hwaits : (w.run sv l events).stage k = some (.waiting ticket)) :
    w.stage k = none ∨ w.stage k = some (.waiting ticket) := by
  induction events generalizing w with
  | nil => exact .inr hwaits
  | cons e rest ih =>
    have hm := move_step sv l w e
    rcases ih hwaits with hnone | hstage
    · by_contra hnot
      exact hm.stage_ne_none (fun h => hnot (.inl h)) hnone
    · exact hm.of_waiting hstage

/-- Whoever was called away does not come back. -/
theorem Move.stage_gone (hm : Move sv l w e w') (hgone : w.stage k = some .gone) :
    w'.stage k = some .gone := by
  rcases hm.stage_cases with hsame | ⟨id, s, hbecome, hstage⟩
  · rw [hsame]
    exact hgone
  · have hne : k ≠ id := by
      rintro rfl
      rw [hgone] at hbecome
      cases hbecome
    rw [hstage, if_neg hne]
    exact hgone

theorem stage_run_gone (hgone : w.stage k = some .gone) (events : List (Event Job)) :
    (w.run sv l events).stage k = some .gone :=
  run_induction sv l (P := fun v => v.stage k = some .gone) hgone
    (fun hv hm => hm.stage_gone hv) events

theorem stage_drop_waiting (hwaits : w.stage k = some (.waiting ticket)) :
    (w.step sv l (.drop k)).stage k = some .gone := by
  show (w.drop sv k).stage k = _
  rw [drop_of_waiting sv hwaits]
  exact stage_setStage_self _ _ _

/-- The beginnings of a run in which something happens. -/
private theorem prefix_or_eq_append (hmoment : moment <+: before ++ e :: later) :
    moment <+: before ∨ ∃ m, moment = before ++ e :: m := by
  rcases List.prefix_or_prefix_of_prefix hmoment (List.prefix_append before _) with
    hearly | ⟨rest, rfl⟩
  · exact .inl hearly
  · cases rest with
    | nil => exact .inl (by simp)
    | cons x m =>
      rw [List.prefix_append_right_inj, List.cons_prefix_cons] at hmoment
      exact .inr ⟨m, by rw [hmoment.1]⟩

/-- Once it was called away the caller stays away. -/
theorem stage_run_drop (hwaits : (w.run sv l before).stage k = some (.waiting ticket))
    (later : List (Event Job)) :
    (w.run sv l (before ++ .drop k :: later)).stage k = some .gone := by
  rw [run_append]
  exact stage_run_gone (stage_drop_waiting hwaits) later

/-- A caller that is called away in line was aside all the time. -/
theorem aside_drop (hquiet : ∀ j, sv.PassesQuietly j)
    (hwaits : (w.run sv l before).stage k = some (.waiting ticket)) (later : List (Event Job)) :
    Aside sv l w k (before ++ .drop k :: later) where
  outside moment hmoment := by
    rcases prefix_or_eq_append hmoment with ⟨rest, rfl⟩ | ⟨m, rfl⟩
    · rw [run_append] at hwaits
      rcases of_run_waiting hwaits with hstage | hstage <;> rw [hstage] <;> rfl
    · rw [stage_run_drop hwaits]
      rfl
  quiet j _ := hquiet j

/-- Once it was called away the caller holds up nobody. -/
theorem HoldsUp.of_drop (hw : w.Orderly)
    (hwaits : (w.run sv l before).stage k = some (.waiting ticket))
    (hmoment : moment <+: before ++ .drop k :: later) (hholds : HoldsUp sv l w k moment) :
    HoldsUp sv l w k before := by
  obtain ⟨earlier, id, hid, hlook, hhead⟩ := hholds
  rcases prefix_or_eq_append (hlook.trans hmoment) with hearly | ⟨m, hlate⟩
  · exact ⟨earlier, id, hid, hearly, hhead⟩
  · exfalso
    rcases List.eq_nil_or_concat m with rfl | ⟨m, x, rfl⟩
    · cases (List.append_inj' hlate rfl).2
    · rw [List.concat_eq_append, ← List.cons_append, ← List.append_assoc] at hlate
      obtain ⟨rfl, -⟩ := List.append_inj' hlate rfl
      have hmem := List.mem_of_mem_head? hhead
      rw [(orderly_run sv l hw _).mem_line_iff, stage_run_drop hwaits] at hmem
      cases hmem

/-- A caller that held up nobody takes only its own events with it when it is called away. -/
theorem unhindered_drop_eq (hw : w.Orderly)
    (hwaits : (w.run sv l before).stage k = some (.waiting ticket))
    (hfree : ¬ HoldsUp sv l w k before) (hmoment : moment <+: before ++ .drop k :: later) :
    unhindered sv l w k moment = others k moment :=
  unhindered_eq_others fun hholds => hfree (hholds.of_drop hw hwaits hmoment)

/-- Whoever is first stays first while it waits. -/
theorem Move.head?_of_waiting (hm : Move sv l w e w') (hhead : w.line.head? = some k)
    (hwaits : w'.stage k = some (.waiting ticket)) : w'.line.head? = some k := by
  have herase : ∀ {v : Turnstile State Job Stay Result} {id : Caller} {s : Stage Job Stay Result},
      (v.setStage id s).stage k = some (.waiting ticket) → (∀ t, s ≠ .waiting t) →
        (w.line.erase id).head? = some k := by
    intro v id s hk hs
    have hne : w.line.head? ≠ some id := by
      rw [hhead]
      rintro heq
      obtain rfl := Option.some.inj heq
      rw [stage_setStage_self] at hk
      exact hs ticket (Option.some.inj hk)
    exact (head?_without hne).trans hhead
  have hsettle : ∀ {v : Turnstile State Job Stay Result} {id : Caller}
      {turn : State × Turn Stay Result}, v.line = w.line →
        (v.settle id turn).stage k = some (.waiting ticket) →
          (v.settle id turn).line.head? = some k := by
    rintro v id ⟨t, y | r⟩ hline hk
    · rw [settle_staying, line_setStage]
      exact hline ▸ hhead
    · rw [settle_leaving, line_setStage, line_passOut]
      exact hline ▸ herase hk (by simp)
  cases hm with
  | rest => exact hhead
  | tick => exact hhead
  | ask => simp [hhead]
  | refuse => exact hhead
  | queue => simp [hhead]
  | tell => exact herase hwaits (by simp)
  | pace => exact hhead
  | enter => exact hsettle rfl hwaits
  | resume => exact hsettle rfl hwaits
  | dropWaiting => exact herase hwaits (by simp)
  | dropPacing => exact herase hwaits (by simp)
  | dropInside => exact herase hwaits (by simp)

theorem head?_run_of_waiting (hw : w.Orderly) (hhead : w.line.head? = some k)
    (hwaits : (w.run sv l events).stage k = some (.waiting ticket)) :
    (w.run sv l events).line.head? = some k := by
  induction events using List.reverseRecOn with
  | nil => exact hhead
  | append_singleton events e ih =>
    rw [run_concat] at hwaits ⊢
    have hm := move_step sv l (w.run sv l events) e
    have hcame : (w.run sv l events).stage k ≠ none := by
      refine run_induction sv l (P := fun v => v.stage k ≠ none) ?_ (fun hv hm =>
        hm.stage_ne_none hv) events
      exact fun hnew => hw.not_mem_line hnew (List.mem_of_mem_head? hhead)
    exact hm.head?_of_waiting (ih ((hm.of_waiting hwaits).resolve_left hcame)) hwaits

/-- Whoever waits behind somebody else has held up nobody. -/
theorem not_holdsUp_of_behind (hw : w.Orderly)
    (hwaits : (w.run sv l before).stage k = some (.waiting ticket))
    (hbehind : (w.run sv l before).line.head? ≠ some k) : ¬ HoldsUp sv l w k before := by
  rintro ⟨earlier, id, -, ⟨rest, rfl⟩, hhead⟩
  rw [List.append_assoc, run_append] at hwaits hbehind
  exact hbehind (head?_run_of_waiting (orderly_run sv l hw earlier) hhead hwaits)

theorem stage_settle_ne_waiting (turn : State × Turn Stay Result) :
    (w.settle k turn).stage k ≠ some (.waiting ticket) := by
  obtain ⟨t, y | r⟩ := turn <;> simp [settle_staying, settle_leaving]

theorem stage_takeTurn_ne_waiting (ticket' : Ticket Job) :
    (w.takeTurn sv l k ticket').stage k ≠ some (.waiting ticket) := by
  unfold takeTurn
  split
  · simp
  · split
    · exact stage_settle_ne_waiting _
    · simp

/-- Whoever looks whether it can go on and still waits is not first. -/
theorem head?_ne_of_poll (hwaits : (w.poll sv l k).stage k = some (.waiting ticket)) :
    (w.poll sv l k).line.head? ≠ some k := by
  revert hwaits
  unfold poll
  split
  · split
    · exact fun hwaits => absurd hwaits (stage_takeTurn_ne_waiting _)
    · rename_i hfirst
      exact fun _ => hfirst
  · rename_i hstage
    split
    · exact fun hwaits => absurd hwaits (stage_settle_ne_waiting _)
    · exact fun hwaits => by simp [hstage] at hwaits
  · exact fun hwaits => absurd hwaits (stage_settle_ne_waiting _)
  · rename_i hnot _ _
    exact fun hwaits => absurd hwaits (hnot ticket)

end Drop

/-! ## The law -/

/-- What is left of callers that are called away. -/
structure Forgets (sv : Service State Job Stay Result) (l : Limits) (t : State) : Prop where
  /-- A caller that is called away in line is not seen at any moment, if the looks go with it that
  were in vain because of it.  If it held up nobody there are none. -/
  unseen : ∀ {k before ticket}, ((opened t).run sv l before).stage k = some (.waiting ticket) →
    ∀ later moment, moment <+: before ++ .drop k :: later →
      (opened t).run sv l (unhindered sv l (opened t) k moment) =
          ((opened t).run sv l moment).without k ∧
        visits sv l (opened t) (unhindered sv l (opened t) k moment) =
          visits sv l (opened t) moment ∧
        (¬ HoldsUp sv l (opened t) k before →
          unhindered sv l (opened t) k moment = others k moment)
  /-- It held up nobody if somebody else is first by then, or if it has just looked itself. -/
  free : ∀ {k before ticket}, ((opened t).run sv l before).stage k = some (.waiting ticket) →
    ((opened t).run sv l before).line.head? ≠ some k ∨ (∃ first, before = first ++ [.poll k]) →
      ¬ HoldsUp sv l (opened t) k before
  /-- A caller that is called away after it had its turn is remembered as if it had sent
  something. -/
  stamped : ∀ events id s, ((opened t).run sv l events).stage id = some s → s.hasTurn = true →
    ((opened t).run sv l (events ++ [.drop id])).pace.lastRequest =
      some ((opened t).run sv l events).now

theorem forgets_of_passesQuietly {sv : Service State Job Stay Result} (l : Limits) (t : State)
    (hquiet : ∀ j, sv.PassesQuietly j) : Forgets sv l t where
  unseen hwaits later moment hmoment := by
    have haside := (aside_drop hquiet hwaits later).earlier hmoment
    obtain ⟨hrun, hvisits, -⟩ := run_unhindered t haside
    exact ⟨hrun, hvisits, fun hfree => unhindered_drop_eq (orderly_opened t) hwaits hfree hmoment⟩
  free hwaits hfirst := by
    refine not_holdsUp_of_behind (orderly_opened t) hwaits ?_
    rcases hfirst with hbehind | ⟨first, rfl⟩
    · exact hbehind
    · rw [run_concat] at hwaits ⊢
      exact head?_ne_of_poll hwaits
  stamped events id s hstage hs := by
    rw [run_concat]
    show (((opened t).run sv l events).drop sv id).pace.lastRequest = _
    unfold drop
    rw [hstage]
    cases s with
    | pacing => rfl
    | inside => rfl
    | _ => cases hs

end Turnstile

theorem Chore.passesQuietly (clock : Clock) (j : Chore) : (service clock).PassesQuietly j := by
  intro now t t' harrive
  cases harrive
  rfl

theorem Handler.passesQuietly (c : Client) (call : Call) : (service c).PassesQuietly call := by
  intro now h h' harrive
  change Handler.arrive c now call h = (h', none) at harrive
  cases call with
  | send r =>
    rcases arrive_send_cases c now h r with hqueue | ⟨-, hrefuse⟩ | hexpired
    · rw [hqueue] at harrive
      cases harrive
      rfl
    · rw [hrefuse] at harrive
      cases harrive
    · rw [hexpired] at harrive
      cases harrive
  | _ =>
    cases harrive
    rfl

/-- Whoever gives up in line is forgotten, at a limiter and at a handler. -/
theorem forgets_quitters (l : Limits) :
    (∀ clock, Turnstile.Forgets (Chore.service clock) l ()) ∧
      ∀ c server, Turnstile.Forgets (Handler.service c) l (Handler.opened server) :=
  ⟨fun clock => Turnstile.forgets_of_passesQuietly l () (Chore.passesQuietly clock),
    fun c server =>
      Turnstile.forgets_of_passesQuietly l (Handler.opened server) (Handler.passesQuietly c)⟩

namespace Turnstile

/-- The first caller does a chore, and the second one waits behind it.  When the chore is done the
second one is first, but does not look.  Meanwhile the third one comes and looks twice. -/
def stalled : List (Event Chore) :=
  [.call 0 (.job ⟨false, .ofSecs 1, false⟩), .poll 0, .call 1 (.job ⟨false, 0, false⟩), .poll 1,
    .tick (.ofSecs 1), .poll 0, .call 2 (.job ⟨false, 0, false⟩), .poll 2,
    .tick (.ofMillis 2550), .poll 2, .tick (.ofMillis 2450)]

/-- The second caller is called away, and the third one looks again. -/
def relieved : List (Event Chore) :=
  stalled ++ .drop 1 :: [.poll 2]

/-- Though it is called away in line, the second caller has held up the third one. -/
theorem start_delayed_of_stalled :
    ((opened ()).run (Chore.service .exact) .default stalled).stage 1 =
        some (.waiting (.job ⟨false, 0, false⟩)) ∧
      ((opened ()).run (Chore.service .exact) .default relieved).stage 2 =
        some (.left (.result ⟨Duration.ofSecs 6, false⟩)) ∧
      ((opened ()).run (Chore.service .exact) .default (others 1 relieved)).stage 2 =
        some (.left (.result ⟨Duration.ofMillis 3550, false⟩)) := by
  decide +kernel

end Turnstile

namespace Session

open Turnstile

/-- A server that takes the login, and answers the first sign of life late. -/
def tardyServer : Server :=
  .scripted [.respond [⟨0, .reply .own "200 abc12 LOGIN ACCEPTED"⟩],
    .respond [⟨.ofSecs 5, .reply .own "300 PONG"⟩], .respond [⟨0, .reply .own "300 PONG"⟩]]

/-- While a sign of life is on its way, a calendar and another sign of life are asked for. -/
def crowded : List (Event Call) :=
  [.call 0 (.job .login), .poll 0, .tick (.ofSecs 3), .call 1 (.job .ping), .poll 1,
    .call 2 (.job (.send .calendar)), .call 3 (.job .ping), .poll 2, .tick (.ofSecs 1)]

/-- The calendar is given up, and both signs of life are answered. -/
def settled : List (Event Call) :=
  crowded ++ .drop 2 :: [.tick (.ofSecs 4), .poll 1, .poll 3, .tick (.ofMillis 2550), .poll 3]

/-- The second sign of life is sent and answered as if nobody had asked for a calendar. -/
theorem forgets_calendar :
    (after .plain Settings.default.spacing.limits tardyServer crowded).stage 2 =
        some (.waiting (.job (.send .calendar))) ∧
      (after .plain Settings.default.spacing.limits tardyServer settled).stage 3 =
        some (.left (.result (.ok (.pong none)))) ∧
      after .plain Settings.default.spacing.limits tardyServer (others 2 settled) =
        (after .plain Settings.default.spacing.limits tardyServer settled).without 2 := by
  have hwaits : (after .plain Settings.default.spacing.limits tardyServer crowded).stage 2 =
      some (.waiting (.job (.send .calendar))) := by
    decide +kernel
  have hfirst : (after .plain Settings.default.spacing.limits tardyServer crowded).line.head? ≠
      some 2 := by
    decide +kernel
  have hforgets := (forgets_quitters Settings.default.spacing.limits).2 .plain tardyServer
  have hfree := hforgets.free hwaits (.inl hfirst)
  obtain ⟨hsame, -, hothers⟩ := hforgets.unseen hwaits _ settled (List.prefix_refl _)
  rw [hothers hfree] at hsame
  exact ⟨hwaits, by decide +kernel, hsame⟩

end Session

end AnidbClient
