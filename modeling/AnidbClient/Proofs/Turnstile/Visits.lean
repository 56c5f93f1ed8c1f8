import AnidbClient.Proofs.Turnstile.Acts

/-!
# Who had its turn, and when

`Turnstile.visits` writes down every caller with a job that had its turn: at which moment, when it
was let in, and when it left or was called away.  It looks at the stages of the callers and at the
clock alone, and not at what the turnstile itself remembers of the past.  The latest visit comes
first.

Only the latest visit can be open.  `Tracks` is the invariant that says so, and `Recounts` lists
what an event can do to the visits and to the pace at once: no later proof needs to look at the
moves again (`recounts_run`).
-/

namespace AnidbClient

variable {State Job Stay Result : Type}

namespace Stage

/-- The caller has had its turn, and has not left. -/
def hasTurn : Stage Job Stay Result → Bool
  | .pacing _ _ | .inside _ => true
  | .waiting _ | .left _ | .gone => false

/-- The caller has been let in. -/
def hasStarted : Stage Job Stay Result → Bool
  | .inside _ | .left _ => true
  | .waiting _ | .pacing _ _ | .gone => false

theorem isPresent_of_hasTurn {s : Stage Job Stay Result} (hs : s.hasTurn = true) :
    s.isPresent = true := by
  cases s with
  | pacing => rfl
  | inside => rfl
  | _ => cases hs

end Stage

namespace Turn

/-- When a caller that looks at the shared state now is gone, if it leaves. -/
def close? (now : Instant) : Turn Stay Result → Option Instant
  | .staying _ => none
  | .leaving _ => some now

end Turn

/-- A caller that had its turn. -/
structure Visit where
  caller : Caller
  /-- It keeps the short delay however long the client has been active. -/
  short : Bool
  turn : Instant
  /-- When it was let in. -/
  start? : Option Instant
  /-- When it left or was called away. -/
  close? : Option Instant
  deriving DecidableEq

namespace Turnstile

/-! ## Writing visits down -/

/-- The caller that has its turn by an event, and its job. -/
def turn? (w : Turnstile State Job Stay Result) : Event Job → Option (Caller × Job)
  | .poll id =>
    match w.stage id with
    | some (.waiting (.job j)) => if w.line.head? = some id then some (id, j) else none
    | _ => none
  | _ => none

/-- The visit, with what is seen of it now. -/
def follow (w : Turnstile State Job Stay Result) (v : Visit) : Visit :=
  { v with
    start? := v.start?.or
      (if (w.stage v.caller).any Stage.hasStarted then some w.now else none)
    close? := v.close?.or
      (if (w.stage v.caller).any Stage.isPresent then none else some w.now) }

variable (sv : Service State Job Stay Result) (l : Limits)

/-- The visits after an event. -/
def noteVisits (w : Turnstile State Job Stay Result) (e : Event Job) (vs : List Visit) :
    List Visit :=
  let begun := (w.turn? e).toList.map fun (id, j) =>
    (⟨id, sv.keepsShort j, w.now, none, none⟩ : Visit)
  (begun ++ vs).map (w.step sv l e).follow

/-- Everyone that had its turn, the latest first. -/
def visits (w : Turnstile State Job Stay Result) (events : List (Event Job)) : List Visit :=
  record sv l (noteVisits sv l) w [] events

theorem visits_concat (w : Turnstile State Job Stay Result) (events : List (Event Job))
    (e : Event Job) :
    visits sv l w (events ++ [e]) =
      noteVisits sv l (w.run sv l events) e (visits sv l w events) :=
  record_concat _ _ _ _ _

/-! ## What is seen of a visit -/

section Follow

variable {w w' : Turnstile State Job Stay Result} {v : Visit}

theorem follow_follow (w : Turnstile State Job Stay Result) (v : Visit) :
    w.follow (w.follow v) = w.follow v := by
  unfold follow
  simp [Option.or_assoc]

/-- There is nothing new to see of a caller that stays where it is. -/
theorem follow_of_stage_eq (hstage : w'.stage v.caller = w.stage v.caller)
    (hfollow : w.follow v = v) : w'.follow v = v := by
  obtain ⟨caller, short, turn, start?, close?⟩ := v
  simp only [follow, Visit.mk.injEq, true_and] at hfollow hstage ⊢
  rw [hstage]
  obtain ⟨hstart, hclose⟩ := hfollow
  constructor
  · cases start? with
    | some t => rfl
    | none => split <;> simp_all
  · cases close? with
    | some t => rfl
    | none => split <;> simp_all

theorem start?_of_follow {s : Stage Job Stay Result} (hfollow : w.follow v = v)
    (hstage : w.stage v.caller = some s) (hs : s.hasStarted = true) : ∃ t, v.start? = some t := by
  have hstart := congrArg Visit.start? hfollow
  simp only [follow, hstage, Option.any_some, hs, if_true] at hstart
  cases h : v.start? with
  | some t => exact ⟨t, rfl⟩
  | none =>
    rw [h] at hstart
    cases hstart

end Follow

/-! ## What an event does to the visits -/

/-- What is known of the visits agrees with the stages of the callers, and all but the latest visit
are over. -/
structure Tracks (w : Turnstile State Job Stay Result) (vs : List Visit) : Prop where
  follows : ∀ v ∈ vs, w.follow v = v
  gone : ∀ v ∈ vs, v.close? ≠ none → ∃ s, w.stage v.caller = some s ∧ s.isPresent = false
  turned : ∀ v ∈ vs, v.close? = none → ∃ s, w.stage v.caller = some s ∧ s.hasTurn = true
  unstarted : ∀ v ∈ vs, ∀ j ready, w.stage v.caller = some (.pacing j ready) → v.start? = none
  latest : ∀ id s, w.stage id = some s → s.hasTurn = true →
    ∃ v earlier, vs = v :: earlier ∧ v.caller = id ∧ v.close? = none
  parted : ∀ v ∈ vs.tail, v.close? ≠ none

/-- What an event does to the visits and to the pace. -/
inductive Recounts (w w' : Turnstile State Job Stay Result) :
    List Visit → List Visit → Prop where
  /-- No visit changes. -/
  | rest {vs : List Visit} (hpace : w'.pace = w.pace)
      (hpacing : ∀ id j ready, w'.stage id = some (.pacing j ready) →
        w.stage id = some (.pacing j ready)) : Recounts w w' vs vs
  /-- A caller has its turn and starts to keep its delay. -/
  | pace {vs : List Visit} {id : Caller} {j : Job} {wait : Duration} (hnow : w'.now = w.now)
      (hdone : ∀ v ∈ vs, v.close? ≠ none)
      (hturn : w.pace.nextTurn l w.now (sv.keepsShort j) = (w'.pace, some wait))
      (hpacing : ∀ k j' ready, w'.stage k = some (.pacing j' ready) →
        k = id ∧ ready = w.now + sv.clock.lasts wait) :
      Recounts w w' vs (⟨id, sv.keepsShort j, w.now, none, none⟩ :: vs)
  /-- A caller has its turn and is let in at once; it may leave at once, too. -/
  | enter {vs : List Visit} {id : Caller} {j : Job} {p : Pace} {close? : Option Instant}
      (hdone : ∀ v ∈ vs, v.close? ≠ none)
      (hturn : w.pace.nextTurn l w.now (sv.keepsShort j) = (p, none))
      (hclose : close? = none ∧ w'.pace = p ∨ close? = some w.now ∧ w'.pace = p.stamp w.now)
      (hnone : ∀ k j' ready, w'.stage k ≠ some (.pacing j' ready)) :
      Recounts w w' vs (⟨id, sv.keepsShort j, w.now, some w.now, close?⟩ :: vs)
  /-- A caller that has kept its delay is let in; it may leave at once, too. -/
  | letIn {earlier : List Visit} {v : Visit} {j : Job} {ready : Instant}
      {close? : Option Instant} (hstage : w.stage v.caller = some (.pacing j ready))
      (hready : ready ≤ w.now)
      (hclose : close? = none ∧ w'.pace = w.pace ∨
        close? = some w.now ∧ w'.pace = w.pace.stamp w.now)
      (hnone : ∀ k j' ready', w'.stage k ≠ some (.pacing j' ready')) :
      Recounts w w' (v :: earlier) ({ v with start? := some w.now, close? := close? } :: earlier)
  /-- A caller that had its turn leaves or is called away. -/
  | leave {earlier : List Visit} {v : Visit}
      (hstarted : (∃ j ready, w.stage v.caller = some (.pacing j ready)) ∨ v.start? ≠ none)
      (hpace : w'.pace = w.pace.stamp w.now)
      (hnone : ∀ k j' ready, w'.stage k ≠ some (.pacing j' ready)) :
      Recounts w w' (v :: earlier) ({ v with close? := some w.now } :: earlier)

section Tracks

variable {sv} {l} {w w' : Turnstile State Job Stay Result} {vs earlier : List Visit} {u : Visit}
  {id : Caller} {s : Stage Job Stay Result}

theorem tracks_opened (t : State) : Tracks (opened t : Turnstile State Job Stay Result) [] where
  follows v hv := by cases hv
  gone v hv := by cases hv
  turned v hv := by cases hv
  unstarted v hv := by cases hv
  latest id s hid := by cases hid
  parted v hv := by cases hv

/-- Callers that have had no turn may come and go. -/
theorem Tracks.of_same (h : Tracks w vs)
    (hvisited : ∀ v ∈ vs, w'.stage v.caller = w.stage v.caller)
    (hturn : ∀ id s, w'.stage id = some s → s.hasTurn = true → w.stage id = some s) :
    Tracks w' vs ∧ vs.map w'.follow = vs := by
  have hfollows : ∀ v ∈ vs, w'.follow v = v :=
    fun v hv => follow_of_stage_eq (hvisited v hv) (h.follows v hv)
  refine ⟨⟨hfollows, ?_, ?_, ?_, ?_, h.parted⟩, ?_⟩
  · intro v hv
    rw [hvisited v hv]
    exact h.gone v hv
  · intro v hv
    rw [hvisited v hv]
    exact h.turned v hv
  · intro v hv
    rw [hvisited v hv]
    exact h.unstarted v hv
  · intro id s hid hs
    exact h.latest id s (hturn id s hid hs) hs
  · rw [List.map_congr_left hfollows, List.map_id']

/-- A visit that is over is not the one of a caller that goes a stage further. -/
theorem Tracks.stage_eq_of_done {v : Visit} (h : Tracks w vs) (hv : v ∈ vs)
    (hdone : v.close? ≠ none) (hstage : ∀ k, w'.stage k = if k = id then some s else w.stage k)
    (hpresent : (w.stage id).any Stage.isPresent = true) :
    w'.stage v.caller = w.stage v.caller := by
  obtain ⟨t, ht, hgone⟩ := h.gone v hv hdone
  have hne : v.caller ≠ id := by
    rintro rfl
    simp [ht, hgone] at hpresent
  rw [hstage, if_neg hne]

/-- A visit that was open closes when its caller is seen to be gone. -/
theorem close?_follow (hopen : u.close? = none) (hstage : w.stage u.caller = some s) :
    (w.follow u).close? = if s.isPresent then none else some w.now := by
  simp only [follow, hopen, hstage, Option.any_some, Option.none_or]

/-- A caller goes a stage further, while all other visits are over. -/
theorem Tracks.advance (h : Tracks w vs) (hsub : ∀ v ∈ earlier, v ∈ vs)
    (hdone : ∀ v ∈ earlier, v.close? ≠ none)
    (hstage : ∀ k, w'.stage k = if k = id then some s else w.stage k)
    (hpresent : (w.stage id).any Stage.isPresent = true)
    (halone : ∀ k t, k ≠ id → w.stage k = some t → t.hasTurn = false)
    (hs : s.isPresent = true → s.hasTurn = true)
    (hid : u.caller = id) (hopen : u.close? = none)
    (hstart : ∀ j ready, s = .pacing j ready → u.start? = none) :
    Tracks w' (w'.follow u :: earlier) ∧ earlier.map w'.follow = earlier := by
  have hmine : w'.stage u.caller = some s := by
    rw [hid, hstage, if_pos rfl]
  have hclose := close?_follow hopen hmine
  have hothers : ∀ v ∈ earlier, w'.stage v.caller = w.stage v.caller :=
    fun v hv => h.stage_eq_of_done (hsub v hv) (hdone v hv) hstage hpresent
  have hfollows : ∀ v ∈ earlier, w'.follow v = v :=
    fun v hv => follow_of_stage_eq (hothers v hv) (h.follows v (hsub v hv))
  refine ⟨⟨?_, ?_, ?_, ?_, ?_, hdone⟩, ?_⟩
  · intro v hv
    rcases List.mem_cons.1 hv with rfl | hv
    · exact follow_follow w' u
    · exact hfollows v hv
  · intro v hv hclosed
    rcases List.mem_cons.1 hv with rfl | hv
    · refine ⟨s, hmine, ?_⟩
      rw [hclose] at hclosed
      cases hsome : s.isPresent with
      | false => rfl
      | true => simp [hsome] at hclosed
    · rw [hothers v hv]
      exact h.gone v (hsub v hv) hclosed
  · intro v hv hnone
    rcases List.mem_cons.1 hv with rfl | hv
    · refine ⟨s, hmine, hs ?_⟩
      rw [hclose] at hnone
      cases hsome : s.isPresent with
      | true => rfl
      | false => simp [hsome] at hnone
    · exact absurd hnone (hdone v hv)
  · intro v hv j ready hpacing
    rcases List.mem_cons.1 hv with rfl | hv
    · obtain rfl : s = .pacing j ready := Option.some.inj (hmine.symm.trans hpacing)
      simp [follow, hstart j ready rfl, hmine, Stage.hasStarted]
    · rw [hothers v hv] at hpacing
      exact h.unstarted v (hsub v hv) j ready hpacing
  · intro k t hk ht
    rw [hstage] at hk
    split at hk
    · rename_i heq
      obtain rfl := Option.some.inj hk
      refine ⟨_, _, rfl, hid.trans heq.symm, ?_⟩
      rw [hclose, if_pos (Stage.isPresent_of_hasTurn ht)]
    · rename_i hne
      rw [halone k t hne hk] at ht
      cases ht
  · rw [List.map_congr_left hfollows, List.map_id']

/-- Whoever has had its turn is at the head of the line. -/
theorem Orderly.head?_of_hasTurn (hw : w.Orderly) (hstage : w.stage id = some s)
    (hs : s.hasTurn = true) : w.line.head? = some id := by
  refine hw.head?_of_not_waiting hstage (Stage.isPresent_of_hasTurn hs) ?_
  rintro ticket rfl
  cases hs

/-- Nobody else has had its turn. -/
theorem Orderly.hasTurn_eq_false (hw : w.Orderly) (hhead : w.line.head? = some id) {k : Caller}
    {t : Stage Job Stay Result} (hk : k ≠ id) (hstage : w.stage k = some t) :
    t.hasTurn = false := by
  cases ht : t.hasTurn with
  | false => rfl
  | true =>
    have hhead' := hw.head?_of_hasTurn hstage ht
    rw [hhead, Option.some.injEq] at hhead'
    exact absurd hhead'.symm hk

/-- While the first one waits, all visits are over. -/
theorem Tracks.done (h : Tracks w vs) (hw : w.Orderly) {ticket : Ticket Job}
    (hhead : w.line.head? = some id) (hstage : w.stage id = some (.waiting ticket)) :
    ∀ v ∈ vs, v.close? ≠ none := by
  intro v hv hopen
  obtain ⟨t, ht, hturn⟩ := h.turned v hv hopen
  by_cases hk : v.caller = id
  · rw [hk, hstage] at ht
    cases ht
    cases hturn
  · rw [hw.hasTurn_eq_false hhead hk ht] at hturn
    cases hturn

/-- Nobody keeps a delay when the first one does not. -/
theorem Orderly.not_pacing (hw : w.Orderly) (hhead : w.line.head? = some id)
    (hstage : ∀ k, w'.stage k = if k = id then some s else w.stage k)
    (hs : ∀ j ready, s ≠ .pacing j ready) (k : Caller) (j : Job) (ready : Instant) :
    w'.stage k ≠ some (.pacing j ready) := by
  intro hk
  rw [hstage] at hk
  split at hk
  · exact hs j ready (Option.some.inj hk)
  · rename_i hne
    cases hw.hasTurn_eq_false hhead hne hk

/-- What an event does when nobody has its turn by it, and when a caller has. -/
theorem turn?_eq_some_iff {e : Event Job} {j : Job} :
    w.turn? e = some (id, j) ↔
      e = .poll id ∧ w.stage id = some (.waiting (.job j)) ∧ w.line.head? = some id := by
  constructor
  · intro hturn
    cases e with
    | poll k =>
      simp only [turn?] at hturn
      split at hturn
      · rename_i j' hstage
        simp only [Option.ite_none_right_eq_some, Option.some.injEq, Prod.mk.injEq] at hturn
        obtain ⟨hhead, rfl, rfl⟩ := hturn
        exact ⟨rfl, hstage, hhead⟩
      · cases hturn
    | _ => cases hturn
  · rintro ⟨rfl, hstage, hhead⟩
    simp [turn?, hstage, hhead]

theorem noteVisits_of_turn {e : Event Job} {j : Job} (hturn : w.turn? e = some (id, j))
    (vs : List Visit) :
    noteVisits sv l w e vs =
      (w.step sv l e).follow ⟨id, sv.keepsShort j, w.now, none, none⟩ ::
        vs.map (w.step sv l e).follow := by
  simp [noteVisits, hturn]

theorem noteVisits_of_no_turn {e : Event Job} (hturn : w.turn? e = none) (vs : List Visit) :
    noteVisits sv l w e vs = vs.map (w.step sv l e).follow := by
  simp [noteVisits, hturn]

/-! ### Callers that have had no turn -/

/-- A newcomer, or one that waits, does not get a turn and leaves the pace alone. -/
theorem Tracks.outside (h : Tracks w vs)
    (hid : ∀ t, w.stage id = some t → ∃ ticket, t = .waiting ticket)
    (hstage : ∀ k, w'.stage k = if k = id then some s else w.stage k) (hs : s.hasTurn = false)
    (hpace : w'.pace = w.pace) :
    Tracks w' (vs.map w'.follow) ∧ Recounts sv l w w' vs (vs.map w'.follow) := by
  have hvisited : ∀ v ∈ vs, w'.stage v.caller = w.stage v.caller := by
    intro v hv
    have hne : v.caller ≠ id := by
      rintro rfl
      cases hclose : v.close? with
      | none =>
        obtain ⟨t, ht, hturn⟩ := h.turned v hv hclose
        obtain ⟨ticket, rfl⟩ := hid t ht
        cases hturn
      | some at' =>
        obtain ⟨t, ht, hgone⟩ := h.gone v hv (by simp [hclose])
        obtain ⟨ticket, rfl⟩ := hid t ht
        cases hgone
    rw [hstage, if_neg hne]
  have hturn : ∀ k t, w'.stage k = some t → t.hasTurn = true → w.stage k = some t := by
    intro k t hk ht
    rw [hstage] at hk
    split at hk
    · obtain rfl := Option.some.inj hk
      rw [hs] at ht
      cases ht
    · exact hk
  obtain ⟨htracks, hsame⟩ := h.of_same hvisited hturn
  rw [hsame]
  exact ⟨htracks, .rest hpace fun k j ready hk => hturn k _ hk rfl⟩

/-! ### Callers that look at the shared state -/

theorem close?_settle (w : Turnstile State Job Stay Result) (id : Caller)
    (turn : State × Turn Stay Result) :
    turn.2.close? w.now = none ∧ (w.settle id turn).pace = w.pace ∨
      turn.2.close? w.now = some w.now ∧ (w.settle id turn).pace = w.pace.stamp w.now := by
  obtain ⟨t, y | r⟩ := turn
  · exact .inl ⟨rfl, rfl⟩
  · exact .inr ⟨rfl, rfl⟩

/-- What is seen of a caller that has just looked at the shared state. -/
theorem follow_settle (w : Turnstile State Job Stay Result) (turn : State × Turn Stay Result)
    (hid : u.caller = id) (hopen : u.close? = none) :
    (w.settle id turn).follow u =
      { u with start? := u.start?.or (some w.now), close? := turn.2.close? w.now } := by
  obtain ⟨t, y | r⟩ := turn <;>
    simp [follow, stage_settle, hid, hopen, Turn.stage, Turn.close?, Stage.hasStarted,
      Stage.isPresent]

/-- A caller that has its turn looks at the shared state, while all other visits are over. -/
theorem Tracks.settle (h : Tracks w vs) (hw : w.Orderly) (hhead : w.line.head? = some id)
    (hsub : ∀ v ∈ earlier, v ∈ vs) (hdone : ∀ v ∈ earlier, v.close? ≠ none)
    (hid : u.caller = id) (hopen : u.close? = none) (p : Pace) (turn : State × Turn Stay Result) :
    Tracks ({ w with pace := p }.settle id turn)
        (({ w with pace := p }.settle id turn).follow u :: earlier) ∧
      earlier.map ({ w with pace := p }.settle id turn).follow = earlier := by
  have hpresent : (w.stage id).any Stage.isPresent = true :=
    (hw.mem_line_iff id).1 (List.mem_of_mem_head? hhead)
  refine h.advance hsub hdone (stage_settle { w with pace := p } id turn) hpresent
    (fun k t hk ht => hw.hasTurn_eq_false hhead hk ht) ?_ hid hopen ?_
  · obtain ⟨t, y | r⟩ := turn
    · exact fun _ => rfl
    · exact fun hs => by cases hs
  · obtain ⟨t, y | r⟩ := turn
    · exact fun j ready hs => by cases hs
    · exact fun j ready hs => by cases hs

/-- Nobody keeps a delay when a caller looks at the shared state. -/
theorem Orderly.not_pacing_settle (hw : w.Orderly) (hhead : w.line.head? = some id) (p : Pace)
    (turn : State × Turn Stay Result) (k : Caller) (j : Job) (ready : Instant) :
    ({ w with pace := p }.settle id turn).stage k ≠ some (.pacing j ready) := by
  apply hw.not_pacing hhead (stage_settle { w with pace := p } id turn)
  obtain ⟨t, y | r⟩ := turn
  · exact fun j ready hs => by cases hs
  · exact fun j ready hs => by cases hs

/-- A caller has its turn and is let in at once. -/
private theorem Tracks.turn_enter {j : Job} {p : Pace} (h : Tracks w vs) (hw : w.Orderly)
    (hstage : w.stage id = some (.waiting (.job j))) (hhead : w.line.head? = some id)
    (hnext : w.pace.nextTurn l w.now (sv.keepsShort j) = (p, none)) :
    Tracks (w.step sv l (.poll id)) (noteVisits sv l w (.poll id) vs) ∧
      Recounts sv l w (w.step sv l (.poll id)) vs (noteVisits sv l w (.poll id) vs) := by
  let new : Visit := ⟨id, sv.keepsShort j, w.now, none, none⟩
  have hdone := h.done hw hhead hstage
  have hstep : w.step sv l (.poll id) =
      { w with pace := p }.settle id (sv.enter w.now j w.state) :=
    (GoesIn.atOnce hstage hhead hnext).poll_eq
  obtain ⟨htracks, hsame⟩ := h.settle hw hhead (fun _ hv => hv) hdone (u := new) rfl rfl p
    (sv.enter w.now j w.state)
  have hfollow : ({ w with pace := p }.settle id (sv.enter w.now j w.state)).follow new =
      { new with start? := some w.now, close? := (sv.enter w.now j w.state).2.close? w.now } :=
    follow_settle { w with pace := p } _ rfl rfl
  rw [noteVisits_of_turn (turn?_eq_some_iff.2 ⟨rfl, hstage, hhead⟩), hstep, hsame]
  refine ⟨htracks, ?_⟩
  rw [hfollow]
  exact .enter hdone hnext (close?_settle { w with pace := p } id _)
    (hw.not_pacing_settle hhead p _)

/-- A caller has its turn and starts to keep its delay. -/
private theorem Tracks.turn_pace {j : Job} {p : Pace} {wait : Duration} (h : Tracks w vs)
    (hw : w.Orderly) (hstage : w.stage id = some (.waiting (.job j)))
    (hhead : w.line.head? = some id)
    (hnext : w.pace.nextTurn l w.now (sv.keepsShort j) = (p, some wait)) :
    Tracks (w.step sv l (.poll id)) (noteVisits sv l w (.poll id) vs) ∧
      Recounts sv l w (w.step sv l (.poll id)) vs (noteVisits sv l w (.poll id) vs) := by
  let w' := { w with pace := p }.setStage id (.pacing j (w.now + sv.clock.lasts wait))
  let new : Visit := ⟨id, sv.keepsShort j, w.now, none, none⟩
  have hdone := h.done hw hhead hstage
  have hstep : w.step sv l (.poll id) = w' := by
    simp only [step, poll, hstage, if_pos hhead, takeTurn, hnext, w']
  have hpresent : (w.stage id).any Stage.isPresent = true := by
    rw [hstage]
    rfl
  have hboth : Tracks w' (w'.follow new :: vs) ∧ vs.map w'.follow = vs :=
    h.advance (fun _ hv => hv) hdone (fun _ => rfl) hpresent
      (fun k t hk ht => hw.hasTurn_eq_false hhead hk ht) (fun _ => rfl) rfl rfl (fun _ _ _ => rfl)
  have hnew : w'.follow new = new := by
    simp [follow, w', new, Stage.hasStarted, Stage.isPresent]
  rw [noteVisits_of_turn (turn?_eq_some_iff.2 ⟨rfl, hstage, hhead⟩), hstep, hboth.2]
  refine ⟨hboth.1, ?_⟩
  rw [hnew]
  refine .pace rfl hdone hnext ?_
  intro k j' ready hk
  rw [stage_setStage] at hk
  split at hk
  · rename_i heq
    cases hk
    exact ⟨heq, rfl⟩
  · rename_i hne
    cases hw.hasTurn_eq_false hhead hne hk

/-- A caller has its turn. -/
theorem Tracks.turn {e : Event Job} {j : Job} (h : Tracks w vs) (hw : w.Orderly)
    (hturn : w.turn? e = some (id, j)) :
    Tracks (w.step sv l e) (noteVisits sv l w e vs) ∧
      Recounts sv l w (w.step sv l e) vs (noteVisits sv l w e vs) := by
  obtain ⟨rfl, hstage, hhead⟩ := turn?_eq_some_iff.1 hturn
  obtain ⟨p, wait?, hnext⟩ : ∃ p wait?, w.pace.nextTurn l w.now (sv.keepsShort j) = (p, wait?) :=
    ⟨_, _, rfl⟩
  cases wait? with
  | none => exact h.turn_enter hw hstage hhead hnext
  | some wait => exact h.turn_pace hw hstage hhead hnext

/-- The caller that had its turn is called away. -/
theorem Tracks.leave (h : Tracks w vs) (hw : w.Orderly) (hstage : w.stage id = some s)
    (hs : s.hasTurn = true) (hw' : ∀ k, w'.stage k = if k = id then some .gone else w.stage k)
    (hnow : w'.now = w.now) (hpace : w'.pace = w.pace.stamp w.now) :
    Tracks w' (vs.map w'.follow) ∧ Recounts sv l w w' vs (vs.map w'.follow) := by
  obtain ⟨v, earlier, rfl, rfl, hopen⟩ := h.latest id s hstage hs
  have hhead := hw.head?_of_hasTurn hstage hs
  have hpresent : (w.stage v.caller).any Stage.isPresent = true := by
    rw [hstage]
    exact Stage.isPresent_of_hasTurn hs
  obtain ⟨htracks, hsame⟩ := h.advance (fun u hu => List.mem_cons_of_mem v hu) h.parted hw' hpresent
    (fun k t hk ht => hw.hasTurn_eq_false hhead hk ht) (fun hgone => by cases hgone) rfl hopen
    (fun j ready hgone => by cases hgone)
  rw [List.map_cons, hsame]
  refine ⟨htracks, ?_⟩
  have hfollow : w'.follow v = { v with close? := some w.now } := by
    simp [follow, hw', hopen, hnow, Stage.hasStarted, Stage.isPresent]
  rw [hfollow]
  refine .leave ?_ hpace (hw.not_pacing hhead hw' fun j ready hgone => by cases hgone)
  cases s with
  | pacing j ready => exact .inl ⟨j, ready, hstage⟩
  | inside y =>
    obtain ⟨t, ht⟩ := start?_of_follow (h.follows v List.mem_cons_self) hstage rfl
    exact .inr (by simp [ht])
  | _ => cases hs

/-- The caller inside goes on. -/
theorem Tracks.resume (h : Tracks w vs) (hw : w.Orderly) {y : Stay}
    (hstage : w.stage id = some (.inside y)) (turn : State × Turn Stay Result) :
    Tracks (w.settle id turn) (vs.map (w.settle id turn).follow) ∧
      Recounts sv l w (w.settle id turn) vs (vs.map (w.settle id turn).follow) := by
  obtain ⟨v, earlier, rfl, rfl, hopen⟩ := h.latest id _ hstage rfl
  have hhead := hw.head?_of_inside hstage
  obtain ⟨start, hstart⟩ := start?_of_follow (h.follows v List.mem_cons_self) hstage rfl
  obtain ⟨htracks, hsame⟩ := h.settle hw hhead (fun u hu => List.mem_cons_of_mem v hu) h.parted
    (u := v) rfl hopen w.pace turn
  rw [List.map_cons]
  have hfollow := follow_settle w turn (u := v) rfl hopen
  rw [hstart, Option.some_or, ← hstart] at hfollow
  refine ⟨?_, ?_⟩
  · rw [show earlier.map (w.settle v.caller turn).follow = earlier from hsame]
    exact htracks
  · rw [show earlier.map (w.settle v.caller turn).follow = earlier from hsame, hfollow]
    have hnone := hw.not_pacing_settle hhead w.pace turn
    obtain ⟨t, y' | r⟩ := turn
    · have hv : { v with close? := none } = v := by
        rw [← hopen]
      show Recounts sv l w _ _ ({ v with close? := none } :: earlier)
      rw [hv]
      exact .rest rfl fun k j ready hk => absurd hk (hnone k j ready)
    · exact .leave (.inr (by simp [hstart])) rfl hnone

/-- A caller that has kept its delay is let in. -/
theorem Tracks.letIn (h : Tracks w vs) (hw : w.Orderly) {j : Job} {ready : Instant}
    (hstage : w.stage id = some (.pacing j ready)) (hready : ready ≤ w.now)
    (turn : State × Turn Stay Result) :
    Tracks (w.settle id turn) (vs.map (w.settle id turn).follow) ∧
      Recounts sv l w (w.settle id turn) vs (vs.map (w.settle id turn).follow) := by
  obtain ⟨v, earlier, rfl, rfl, hopen⟩ := h.latest id _ hstage rfl
  have hhead := hw.head?_of_pacing hstage
  have hstart := h.unstarted v List.mem_cons_self j ready hstage
  obtain ⟨htracks, hsame⟩ := h.settle hw hhead (fun u hu => List.mem_cons_of_mem v hu) h.parted
    (u := v) rfl hopen w.pace turn
  rw [List.map_cons]
  have hfollow := follow_settle w turn (u := v) rfl hopen
  rw [hstart, Option.none_or] at hfollow
  refine ⟨?_, ?_⟩
  · rw [show earlier.map (w.settle v.caller turn).follow = earlier from hsame]
    exact htracks
  · rw [show earlier.map (w.settle v.caller turn).follow = earlier from hsame, hfollow]
    exact .letIn hstage hready (close?_settle w v.caller turn)
      (hw.not_pacing_settle hhead w.pace turn)

/-- Whatever happens, the visits are written down as they are. -/
theorem Tracks.step (h : Tracks w vs) (hw : w.Orderly) (sv : Service State Job Stay Result)
    (l : Limits) (e : Event Job) :
    Tracks (w.step sv l e) (noteVisits sv l w e vs) ∧
      Recounts sv l w (w.step sv l e) vs (noteVisits sv l w e vs) := by
  cases hturn : w.turn? e with
  | some next =>
    obtain ⟨id, j⟩ := next
    exact h.turn hw hturn
  | none =>
    rw [noteVisits_of_no_turn hturn]
    have hno : ∀ {id : Caller} {j : Job}, e = .poll id → w.line.head? = some id →
        w.stage id ≠ some (.waiting (.job j)) := by
      rintro id j he hhead hstage
      rw [turn?_eq_some_iff.2 ⟨he, hstage, hhead⟩] at hturn
      cases hturn
    have hm := move_step sv l w e
    generalize w.step sv l e = w' at hm
    have hsame : w'.stage = w.stage → w'.pace = w.pace →
        Tracks w' (vs.map w'.follow) ∧ Recounts sv l w w' vs (vs.map w'.follow) := by
      intro hstage hpace
      have hboth : Tracks w' vs ∧ vs.map w'.follow = vs :=
        h.of_same (fun v _ => by rw [hstage]) (fun id s hid _ => by rwa [hstage] at hid)
      rw [hboth.2]
      exact ⟨hboth.1, .rest hpace fun id j ready hid => by rwa [hstage] at hid⟩
    cases hm with
    | rest => exact hsame rfl rfl
    | tick => exact hsame rfl rfl
    | ask hnew => exact h.outside (by simp [hnew]) (fun _ => rfl) rfl rfl
    | refuse hnew => exact h.outside (by simp [hnew]) (fun _ => rfl) rfl rfl
    | queue hnew => exact h.outside (by simp [hnew]) (fun _ => rfl) rfl rfl
    | tell hstage => exact h.outside (by simp [hstage]) (fun _ => rfl) rfl rfl
    | dropWaiting hstage => exact h.outside (by simp [hstage]) (fun _ => rfl) rfl rfl
    | pace hstage hhead => exact absurd hstage (hno rfl hhead)
    | enter hin =>
      cases hin with
      | atOnce hstage hhead => exact absurd hstage (hno rfl hhead)
      | paced hstage hready => exact h.letIn hw hstage hready _
    | resume hstage => exact h.resume hw hstage _
    | dropPacing hstage => exact h.leave hw hstage rfl (fun _ => rfl) rfl rfl
    | dropInside hstage => exact h.leave hw hstage rfl (fun _ => rfl) rfl rfl

/-- The visits of every run are written down as they were. -/
theorem tracks_run (sv : Service State Job Stay Result) (l : Limits) (t : State)
    (events : List (Event Job)) :
    Tracks ((opened t).run sv l events) (visits sv l (opened t) events) := by
  induction events using List.reverseRecOn with
  | nil => exact tracks_opened t
  | append_singleton events e ih =>
    rw [run_concat, visits_concat]
    exact (ih.step (orderly_run sv l (orderly_opened t) events) sv l e).1

/-- What the next event does to the visits of a run. -/
theorem recounts_run (sv : Service State Job Stay Result) (l : Limits) (t : State)
    (events : List (Event Job)) (e : Event Job) :
    Recounts sv l ((opened t).run sv l events) ((opened t).run sv l (events ++ [e]))
      (visits sv l (opened t) events) (visits sv l (opened t) (events ++ [e])) := by
  rw [run_concat, visits_concat]
  exact ((tracks_run sv l t events).step (orderly_run sv l (orderly_opened t) events) sv l e).2

end Tracks

end Turnstile

end AnidbClient
