import AnidbClient.Proofs.Turnstile.GivingUp
import AnidbClient.Proofs.Turnstile.Throttle

/-!
# Asking for the delay

Whoever asks for the delay is told the one that the next job with its turn at the same moment is
held to, and asking is not felt.

There are three groups.

* A caller that does nothing but ask is aside all the time (`aside_of_no_job`), and so it is never
  seen by the others.
* A visit that was not let in at its turn was not due then (`AllHeld`), so every visit is let in
  when it is due, or was called away or still keeps its delay (`letInAt_due`).
* Both together say that the answer is true (`delay_foretold`).
-/

namespace AnidbClient

variable {State Job Stay Result : Type}

/-- The caller asks for the delay, was told it, or was called away. -/
def Stage.asks : Stage Job Stay Result → Bool
  | .waiting (.delay _) | .left (.delay _) | .gone => true
  | _ => false

theorem Stage.isAside_of_asks {s : Stage Job Stay Result} (hs : s.asks = true) :
    s.isAside = true := by
  cases s with
  | waiting => rfl
  | left o =>
    cases o with
    | delay => rfl
    | result => cases hs
  | gone => rfl
  | _ => cases hs

namespace Turnstile

/-! ## Callers that only ask -/

section Asking

variable {sv : Service State Job Stay Result} {l : Limits}
  {w w' : Turnstile State Job Stay Result} {k id : Caller} {e : Event Job}

/-- The caller has not come, or only asks for the delay. -/
def Asks (w : Turnstile State Job Stay Result) (k : Caller) : Prop :=
  (w.stage k).all Stage.asks = true

theorem Asks.stage_asks {s : Stage Job Stay Result} (h : w.Asks k) (hstage : w.stage k = some s) :
    s.asks = true := by
  unfold Asks at h
  rw [hstage] at h
  exact h

theorem asks_setStage {s : Stage Job Stay Result} (hs : s.asks = true) :
    (w.setStage k s).Asks k := by
  unfold Asks
  rw [stage_setStage_self]
  exact hs

/-- An event moves nobody but the caller that it is about. -/
theorem stage_step_of_ne (hother : e.caller? ≠ some k) : (w.step sv l e).stage k = w.stage k := by
  have hm := move_step sv l w e
  generalize w.step sv l e = w' at hm ⊢
  have hne : ∀ id, e.caller? = some id → k ≠ id := by
    rintro id he rfl
    exact hother he
  cases hm with
  | rest => rfl
  | tick => rfl
  | enter => exact stage_settle_of_ne _ _ _ (hne _ rfl)
  | resume => exact stage_settle_of_ne _ _ _ (hne _ rfl)
  | _ => exact stage_setStage_of_ne _ _ _ (hne _ rfl)

theorem stage_run_of_ne {events : List (Event Job)} (hothers : ∀ e ∈ events, e.caller? ≠ some k) :
    (w.run sv l events).stage k = w.stage k := by
  induction events generalizing w with
  | nil => rfl
  | cons e events ih =>
    rw [List.forall_mem_cons] at hothers
    exact (ih hothers.2).trans (stage_step_of_ne hothers.1)

/-- A caller that comes without a job only asks. -/
theorem Asks.step (h : w.Asks k) (hjob : ∀ j, e ≠ .call k (.job j)) : (w.step sv l e).Asks k := by
  by_cases hself : e.caller? = some k
  · have hm := move_step sv l w e
    generalize w.step sv l e = w' at hm ⊢
    cases hm with
    | rest => exact h
    | tick => cases hself
    | refuse =>
      obtain rfl := Option.some.inj hself
      exact absurd rfl (hjob _)
    | queue =>
      obtain rfl := Option.some.inj hself
      exact absurd rfl (hjob _)
    | pace hstage =>
      obtain rfl := Option.some.inj hself
      cases h.stage_asks hstage
    | enter hin =>
      obtain rfl := Option.some.inj hself
      cases hin with
      | atOnce hstage => cases h.stage_asks hstage
      | paced hstage => cases h.stage_asks hstage
    | resume hstage =>
      obtain rfl := Option.some.inj hself
      cases h.stage_asks hstage
    | _ =>
      obtain rfl := Option.some.inj hself
      exact asks_setStage rfl
  · unfold Asks
    rw [stage_step_of_ne hself]
    exact h

theorem Asks.run (h : w.Asks k) {events : List (Event Job)}
    (hjob : ∀ j, Event.call k (.job j) ∉ events) : (w.run sv l events).Asks k := by
  induction events using List.reverseRecOn with
  | nil => exact h
  | append_singleton events e ih =>
    rw [run_concat]
    refine (ih fun j hmem => hjob j (List.mem_append_left _ hmem)).step ?_
    rintro j rfl
    exact hjob j (List.mem_append_right _ List.mem_cons_self)

/-- A caller that comes without a job is aside all the time. -/
theorem aside_of_no_job (t : State) {events : List (Event Job)}
    (hjob : ∀ j, Event.call k (.job j) ∉ events) : Aside sv l (opened t) k events where
  outside moment hmoment := by
    have hstart : (opened t : Turnstile State Job Stay Result).Asks k := rfl
    have hasks : ((opened t).run sv l moment).Asks k :=
      hstart.run fun j hmem => hjob j (hmoment.subset hmem)
    cases hstage : ((opened t).run sv l moment).stage k with
    | none => rfl
    | some s => exact Stage.isAside_of_asks (hasks.stage_asks hstage)
  quiet j hmem := absurd hmem (hjob j)

/-- Without events of a caller that is not in line, all events are kept. -/
theorem unhindered_append_of_absent (hw : w.Orderly) {before later : List (Event Job)}
    (habsent : ((w.run sv l before).stage k).any Stage.isPresent = false)
    (hlater : ∀ e ∈ later, e.caller? ≠ some k) :
    unhindered sv l w k (before ++ later) = unhindered sv l w k before ++ later := by
  induction later using List.reverseRecOn with
  | nil => rw [List.append_nil, List.append_nil]
  | append_singleton later e ih =>
    have hothers : ∀ e ∈ later, e.caller? ≠ some k :=
      fun e he => hlater e (List.mem_append_left _ he)
    have hfirst : (w.run sv l (before ++ later)).line.head? ≠ some k := by
      intro hhead
      have hmem := (orderly_run sv l hw (before ++ later)).mem_line_iff k
      rw [run_append, stage_run_of_ne hothers, habsent, ← run_append] at hmem
      exact Bool.false_ne_true (hmem.1 (List.mem_of_mem_head? hhead))
    have hkept : (w.run sv l (before ++ later)).isIdle k e = false :=
      isIdle_eq_false_iff.2
        ⟨hlater e (List.mem_append_right _ List.mem_cons_self), fun _ _ => hfirst⟩
    rw [← List.append_assoc, unhindered_concat, hkept, if_neg Bool.false_ne_true, ih hothers,
      List.append_assoc]

/-- A caller arrives and asks for the delay. -/
def ask (k : Caller) (short : Bool) : List (Event Job) :=
  [.call k (.delay short), .poll k]

theorem unhindered_ask (t : State) {before later : List (Event Job)} {short : Bool}
    (hbefore : ∀ e ∈ before, e.caller? ≠ some k) (hlater : ∀ e ∈ later, e.caller? ≠ some k)
    (habsent :
      (((opened t).run sv l (before ++ ask k short)).stage k).any Stage.isPresent = false) :
    unhindered sv l (opened t) k (before ++ ask k short ++ later) = before ++ later := by
  have hall : unhindered sv l (opened t) k before = before := by
    show unhindered sv l (opened t) k ([] ++ before) = [] ++ before
    exact unhindered_append_of_absent (orderly_opened t) rfl hbefore
  rw [unhindered_append_of_absent (orderly_opened t) habsent hlater]
  unfold ask
  rw [List.append_cons, unhindered_concat, if_pos (isIdle_of_caller rfl), unhindered_concat,
    if_pos (isIdle_of_caller rfl), hall]

end Asking

/-! ## Visits that were not let in at once -/

section Held

variable {sv : Service State Job Stay Result} {l : Limits}
  {w w' : Turnstile State Job Stay Result} {vs vs' earlier : List Visit} {v : Visit}

/-- Whoever has not been let in had its turn before it was due. -/
def AllHeld (l : Limits) : List Visit → Prop
  | [] => True
  | v :: earlier => (v.start? = none → v.turn < l.due earlier v) ∧ AllHeld l earlier

theorem AllHeld.of_append {later : List Visit} (h : AllHeld l (later ++ v :: earlier))
    (hstart : v.start? = none) : v.turn < l.due earlier v := by
  induction later with
  | nil => exact h.1 hstart
  | cons u later ih => exact ih h.2

/-- A turn with a wait comes before it is due. -/
theorem lt_due_of_nextTurn_some {now : Instant} {short : Bool} {p : Pace} {wait : Duration}
    (hdone : ∀ v ∈ vs, v.close? ≠ none) (hpast : ∀ v ∈ vs, ∀ t, v.close? = some t → t ≤ now)
    (hturn : (Pace.ofVisits l vs).nextTurn l now short = (p, some wait)) (id : Caller) :
    now < l.due vs ⟨id, short, now, none, none⟩ := by
  obtain ⟨_, _, _, hwait⟩ := Pace.exists_of_nextTurn_some hturn
  have hmargin : 0 < safetyMargin := by decide
  rw [(due_of_nextTurn_some hdone hpast hturn id none).1, hwait]
  exact Nat.lt_add_of_pos_right (Nat.add_pos_right _ hmargin)

/-- A caller that has its turn is let in at once, or has it before it is due. -/
theorem AllHeld.step (h : AllHeld l vs) (hthrottled : Throttled l w vs)
    (hrecounts : Recounts sv l w w' vs vs') : AllHeld l vs' := by
  cases hrecounts with
  | rest => exact h
  | pace hnow hdone hturn =>
    rw [hthrottled.pace] at hturn
    exact ⟨fun _ => lt_due_of_nextTurn_some hdone hthrottled.past hturn _, h⟩
  | enter => exact ⟨(fun hstart => nomatch hstart), h⟩
  | letIn => exact ⟨(fun hstart => nomatch hstart), h.2⟩
  | leave => exact ⟨h.1, h.2⟩

variable (hclock : ∀ d ≤ max l.shortDelay l.longDelay + safetyMargin, sv.clock.lasts d = d)
  (t : State) {events : List (Event Job)}
include hclock

theorem allHeld_run (hpunctual : Punctual sv l (opened t) events) :
    AllHeld l (visits sv l (opened t) events) := by
  induction events using List.reverseRecOn with
  | nil => trivial
  | append_singleton events e ih =>
    exact (ih hpunctual.of_append).step (throttled_run hclock t hpunctual.of_append)
      (recounts_run sv l t events e)

/-- The caller was let in at an instant, unless it was called away by then or still keeps its
delay until then. -/
def LetInAt (w : Turnstile State Job Stay Result) (v : Visit) (start : Instant) : Prop :=
  v.start? = some start ∨
    v.start? = none ∧ ((∃ close ≤ start, v.close? = some close) ∨
      w.now ≤ start ∧ ∃ j, w.stage v.caller = some (.pacing j start))

/-- Every visit is let in when it is due. -/
theorem letInAt_due (hpunctual : Punctual sv l (opened t) events) {later : List Visit}
    (hvisits : visits sv l (opened t) events = later ++ v :: earlier) :
    ((opened t).run sv l events).LetInAt v (l.due earlier v) := by
  have htracks := tracks_run sv l t events
  have hthrottled := throttled_run hclock t hpunctual
  rw [hvisits] at htracks hthrottled
  have htimely : Timely l earlier v := hthrottled.timely.of_append
  have hmem : v ∈ later ++ v :: earlier := List.mem_append_right _ List.mem_cons_self
  cases hstart : v.start? with
  | some start => exact .inl (hstart.trans (congrArg some (htimely.started start hstart)))
  | none =>
    refine .inr ⟨hstart, ?_⟩
    cases hclose : v.close? with
    | some close => exact .inl ⟨close, htimely.unstarted hstart close hclose, rfl⟩
    | none =>
      right
      obtain ⟨s, hs, hturn⟩ := htracks.turned v hmem hclose
      cases s with
      | pacing j ready =>
        cases later with
        | nil =>
          obtain ⟨_, rfl, hle⟩ := hthrottled.due_of_pacing hs
          exact ⟨hle, j, hs⟩
        | cons u later =>
          exact absurd hclose (htracks.parted v (List.mem_append_right later List.mem_cons_self))
      | inside y =>
        obtain ⟨start, hsome⟩ := start?_of_follow (htracks.follows v hmem) hs rfl
        rw [hstart] at hsome
        cases hsome
      | _ => cases hturn

end Held

/-! ## The answer -/

section Answer

variable {sv : Service State Job Stay Result} {l : Limits}
  {w : Turnstile State Job Stay Result} {k : Caller} {short : Bool}

/-- Where nobody is in line the answer comes at once, and nothing else happens. -/
theorem run_ask (hfree : w.line = []) (hnew : w.stage k = none) :
    w.run sv l (ask k short) =
      w.setStage k (.left (.delay (w.pace.currentDelay l w.now short))) := by
  have hcall : w.step sv l (.call k (.delay short)) =
      { w with line := [k] }.setStage k (.waiting (.delay short)) := by
    show w.call sv k (.delay short) = _
    unfold Turnstile.call
    rw [hnew, hfree]
    rfl
  have hline : [k].erase k = w.line := by
    rw [List.erase_cons_head, hfree]
  show (w.step sv l (.call k (.delay short))).poll sv l k = _
  rw [hcall, poll_of_first sv l (stage_setStage_self _ _ _) rfl]
  unfold takeTurn stepOut setStage
  dsimp only
  rw [hline]
  congr 1
  funext id
  by_cases hid : id = k <;> simp [hid]

/-- Where nobody is in line nobody else feels that the delay was asked for. -/
theorem ask_unseen (t : State) (short : Bool) {before later : List (Event Job)}
    (hfree : ((opened t).run sv l before).line = []) (hbefore : ∀ e ∈ before, e.caller? ≠ some k)
    (hlater : ∀ e ∈ later, e.caller? ≠ some k) :
    (opened t).run sv l (before ++ later) =
        ((opened t).run sv l (before ++ ask k short ++ later)).without k ∧
      visits sv l (opened t) (before ++ later) =
        visits sv l (opened t) (before ++ ask k short ++ later) := by
  have hjob : ∀ j, Event.call k (.job j) ∉ before ++ ask k short ++ later := by
    intro j hmem
    rcases List.mem_append.1 hmem with hmem | hmem
    · rcases List.mem_append.1 hmem with hmem | hmem
      · exact hbefore _ hmem rfl
      · simp [ask] at hmem
    · exact hlater _ hmem rfl
  have hkept : unhindered sv l (opened t) k (before ++ ask k short ++ later) = before ++ later := by
    apply unhindered_ask t hbefore hlater
    rw [run_append, run_ask hfree (stage_run_of_ne hbefore), stage_setStage_self]
    rfl
  rw [← hkept]
  obtain ⟨hrun, hvisits, -⟩ := run_unhindered t (aside_of_no_job t hjob)
  exact ⟨hrun, hvisits⟩

/-- Where nobody is in line all visits are over. -/
theorem Tracks.all_done {vs : List Visit} (h : Tracks w vs) (hw : w.Orderly)
    (hfree : w.line = []) : ∀ v ∈ vs, v.close? ≠ none := by
  intro v hv hopen
  obtain ⟨s, hs, hturn⟩ := h.turned v hv hopen
  have hhead := hw.head?_of_hasTurn hs hturn
  rw [hfree] at hhead
  cases hhead

/-- A visit goes as it was told: it is let in at its turn if nothing was before it or the silence
is longer than the delay, and else when the delay and the margin have passed since the last end. -/
def GoesAsTold (w : Turnstile State Job Stay Result) (last? : Option Instant) (d : Duration)
    (v : Visit) : Prop :=
  match last? with
  | none => v.start? = some v.turn
  | some last =>
    if d < v.turn - last then v.start? = some v.turn else w.LetInAt v (last + d + safetyMargin)

theorem goesAsTold_of_due {earlier : List Visit} {v : Visit}
    (hlet : w.LetInAt v (l.due earlier v))
    (hheld : v.start? = none → v.turn < l.due earlier v) :
    w.GoesAsTold (earlier.head?.bind Visit.close?) (l.delay earlier v) v := by
  have hsoon : l.due earlier v = v.turn → v.start? = some v.turn := by
    intro hdue
    rw [hdue] at hlet hheld
    rcases hlet with hstart | ⟨hnone, _⟩
    · exact hstart
    · exact absurd (hheld hnone) (Nat.lt_irrefl _)
  unfold GoesAsTold
  unfold Limits.due at hlet hsoon
  cases hlast : earlier.head?.bind Visit.close? with
  | none =>
    rw [hlast] at hsoon
    exact hsoon rfl
  | some last =>
    rw [hlast] at hlet hsoon
    dsimp only at hlet hsoon ⊢
    split
    · rename_i hsilence
      exact hsoon (if_pos hsilence)
    · rename_i hsilence
      rw [if_neg hsilence] at hlet
      exact hlet

/-- An event of somebody else shows nothing new of a visit. -/
theorem Tracks.map_follow_step {vs : List Visit} {e : Event Job} (h : Tracks w vs)
    (hothers : ∀ v ∈ vs, e.caller? ≠ some v.caller) : vs.map (w.step sv l e).follow = vs := by
  have hfollow : ∀ v ∈ vs, (w.step sv l e).follow v = v :=
    fun v hv => follow_of_stage_eq (stage_step_of_ne (hothers v hv)) (h.follows v hv)
  rw [List.map_congr_left hfollow, List.map_id']

/-- Whoever had its turn has come. -/
theorem Tracks.caller_ne {vs : List Visit} (h : Tracks w vs) {i : Caller}
    (hnew : w.stage i = none) : ∀ v ∈ vs, v.caller ≠ i := by
  rintro v hv rfl
  cases hclose : v.close? with
  | none =>
    obtain ⟨s, hs, _⟩ := h.turned v hv hclose
    rw [hnew] at hs
    cases hs
  | some close =>
    obtain ⟨s, hs, _⟩ := h.gone v hv (by simp [hclose])
    rw [hnew] at hs
    cases hs

/-- Where nobody is in line a newcomer with a job is first. -/
theorem turn?_newcomer (hfree : w.line = []) {i : Caller} (hnew : w.stage i = none) {j : Job}
    (harrive : (sv.arrive w.now j w.state).2 = none) :
    (w.step sv l (.call i (.job j))).turn? (.poll i) = some (i, j) := by
  show (w.call sv i (.job j)).turn? (.poll i) = _
  rw [call_job_of_none sv hnew, hfree]
  generalize sv.arrive w.now j w.state = met at harrive ⊢
  obtain ⟨s, r⟩ := met
  obtain rfl : r = none := harrive
  exact turn?_eq_some_iff.2 ⟨rfl, stage_setStage_self _ _ _, rfl⟩

/-- Where nobody is in line a newcomer with a job has its turn at once. -/
theorem visits_newcomer (sv : Service State Job Stay Result) (l : Limits) (t : State)
    (events : List (Event Job)) {i : Caller} {j : Job}
    (hfree : ((opened t).run sv l events).line = [])
    (hnew : ((opened t).run sv l events).stage i = none)
    (harrive : (sv.arrive ((opened t).run sv l events).now j
      ((opened t).run sv l events).state).2 = none) :
    ∃ v, visits sv l (opened t) (events ++ [.call i (.job j), .poll i]) =
        v :: visits sv l (opened t) events ∧
      v.caller = i ∧ v.turn = ((opened t).run sv l events).now ∧ v.short = sv.keepsShort j := by
  have htracks := tracks_run sv l t events
  have htracks' := tracks_run sv l t (events ++ [.call i (.job j)])
  have hothers : ∀ e : Event Job, e.caller? = some i →
      ∀ v ∈ visits sv l (opened t) events, e.caller? ≠ some v.caller := by
    intro e he v hv heq
    rw [he] at heq
    exact htracks.caller_ne hnew v hv (Option.some.inj heq).symm
  have hcall : visits sv l (opened t) (events ++ [.call i (.job j)]) =
      visits sv l (opened t) events := by
    rw [visits_concat, noteVisits_of_no_turn rfl, htracks.map_follow_step (hothers _ rfl)]
  have hturn := turn?_newcomer (l := l) hfree hnew harrive
  have hnow : (((opened t).run sv l events).step sv l (.call i (.job j))).now =
      ((opened t).run sv l events).now := by
    rcases now_step sv l ((opened t).run sv l events) (.call i (.job j)) with hsame | ⟨d, he, _⟩
    · exact hsame
    · cases he
  rw [hcall] at htracks'
  rw [← run_concat] at hturn hnow
  rw [List.append_cons, visits_concat, hcall, noteVisits_of_turn hturn,
    htracks'.map_follow_step (hothers _ rfl)]
  exact ⟨_, rfl, rfl, hnow, rfl⟩

/-- The delay that is told is the one that the next job is held to which has its turn at the same
moment, and nobody else feels that it was asked for. -/
theorem delay_foretold (sv : Service State Job Stay Result) (l : Limits)
    (hclock : ∀ d ≤ max l.shortDelay l.longDelay + safetyMargin, sv.clock.lasts d = d) (t : State)
    (before : List (Event Job)) (k : Caller) (short : Bool)
    (hfree : ((opened t).run sv l before).line = []) (hbefore : ∀ e ∈ before, e.caller? ≠ some k) :
    let w := (opened t).run sv l before
    let vs := visits sv l (opened t) before
    let asked := before ++ ask k short
    ∃ d, ((opened t).run sv l asked).stage k = some (.left (.delay d)) ∧
      (∀ later recent v, Punctual sv l (opened t) (asked ++ later) →
        visits sv l (opened t) (asked ++ later) = recent ++ v :: vs →
          v.turn = w.now → v.short = short →
            ((opened t).run sv l (asked ++ later)).GoesAsTold (vs.head?.bind Visit.close?) d v) ∧
      (∀ i j, i ≠ k → w.stage i = none → (sv.arrive w.now j w.state).2 = none →
        ∃ v, visits sv l (opened t) (asked ++ [.call i (.job j), .poll i]) = v :: vs ∧
          v.caller = i ∧ v.turn = w.now ∧ v.short = sv.keepsShort j) ∧
      ∀ later, (∀ e ∈ later, e.caller? ≠ some k) →
        (opened t).run sv l (before ++ later) =
            ((opened t).run sv l (asked ++ later)).without k ∧
          visits sv l (opened t) (before ++ later) = visits sv l (opened t) (asked ++ later) := by
  intro w vs asked
  have hnew : w.stage k = none := stage_run_of_ne hbefore
  have hasked : (opened t).run sv l asked =
      w.setStage k (.left (.delay (w.pace.currentDelay l w.now short))) := by
    rw [run_append]
    exact run_ask hfree hnew
  have hvisits : visits sv l (opened t) asked = vs := by
    have hnobody : ∀ e ∈ ([] : List (Event Job)), e.caller? ≠ some k := fun _ he => nomatch he
    have hsame := (ask_unseen t short hfree hbefore hnobody).2
    rw [List.append_nil, List.append_nil] at hsame
    exact hsame.symm
  have hdone : ∀ v ∈ vs, v.close? ≠ none :=
    (tracks_run sv l t before).all_done (orderly_run sv l (orderly_opened t) before) hfree
  refine ⟨w.pace.currentDelay l w.now short, ?_, ?_, ?_,
    fun later hlater => ask_unseen t short hfree hbefore hlater⟩
  · rw [hasked, stage_setStage_self]
  · intro later recent v hpunctual hlist hturn hshort
    have hpace : w.pace = Pace.ofVisits l vs :=
      (throttled_run hclock t hpunctual.of_append.of_append).pace
    have hdelay : w.pace.currentDelay l w.now short = l.delay vs v := by
      rw [hpace, currentDelay_ofVisits hdone v.caller v.start?]
      unfold Limits.delay
      rw [hturn, hshort]
    rw [hdelay]
    have hheld := allHeld_run hclock t hpunctual
    rw [hlist] at hheld
    exact goesAsTold_of_due (letInAt_due hclock t hpunctual hlist) hheld.of_append
  · intro i j hi hfirst harrive
    have hgate := visits_newcomer sv l t asked (i := i) (j := j)
    rw [hasked, line_setStage, stage_setStage_of_ne _ _ _ hi, hvisits] at hgate
    exact hgate hfree hfirst harrive

/-- A chore, and a second later nobody is in line. -/
def firstChore : List (Event Chore) :=
  [.call 1 (.job ⟨false, 0, false⟩), .poll 1, .tick (.ofSecs 1)]

/-- Another chore comes, keeps its delay and begins. -/
def nextChore : List (Event Chore) :=
  [.call 2 (.job ⟨false, 0, false⟩), .poll 2, .tick (.ofMillis 1550), .poll 2]

/-- A second after a chore the short delay is told, and the next chore is let in when it and the
margin have passed since the first one. -/
theorem delay_foretold_between_chores :
    ((opened ()).run (Chore.service .exact) .default (firstChore ++ ask 0 false)).stage 0 =
        some (.left (.delay (.ofMillis 2500))) ∧
      ((opened ()).run (Chore.service .exact) .default
        (firstChore ++ ask 0 false ++ nextChore)).GoesAsTold (some 0) (.ofMillis 2500)
          ⟨2, false, Duration.ofSecs 1, some (Duration.ofMillis 2550),
            some (Duration.ofMillis 2550)⟩ ∧
      (opened ()).run (Chore.service .exact) .default (firstChore ++ nextChore) =
        ((opened ()).run (Chore.service .exact) .default
          (firstChore ++ ask 0 false ++ nextChore)).without 0 := by
  have htold : ((opened ()).run (Chore.service .exact) .default
      (firstChore ++ ask 0 false)).stage 0 = some (.left (.delay (.ofMillis 2500))) := by
    decide +kernel
  have hpunctual : Punctual (Chore.service .exact) .default (opened ())
      (firstChore ++ ask 0 false ++ nextChore) :=
    punctual_of_keepsTime (orderly_opened ()) (by decide +kernel)
  have hvisits : visits (Chore.service .exact) .default (opened ())
      (firstChore ++ ask 0 false ++ nextChore) =
        [] ++ ⟨2, false, Duration.ofSecs 1, some (Duration.ofMillis 2550),
          some (Duration.ofMillis 2550)⟩ ::
            visits (Chore.service .exact) .default (opened ()) firstChore := by
    decide +kernel
  have hclosed : (visits (Chore.service .exact) .default (opened ()) firstChore).head?.bind
      Visit.close? = some 0 := by
    decide +kernel
  obtain ⟨d, hd, hgate, -, hunseen⟩ :=
    delay_foretold (Chore.service .exact) .default (fun _ _ => rfl) () firstChore 0 false
      (by decide +kernel) (by decide)
  obtain rfl : Duration.ofMillis 2500 = d := by
    rw [htold] at hd
    cases hd
    rfl
  have hgoes := hgate nextChore [] _ hpunctual hvisits rfl rfl
  rw [hclosed] at hgoes
  exact ⟨htold, hgoes, (hunseen nextChore (by decide)).1⟩

end Answer

end Turnstile

end AnidbClient
