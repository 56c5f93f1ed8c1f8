import AnidbClient.Chore
import AnidbClient.Proofs.Limiter
import AnidbClient.Proofs.Turnstile.Visits

/-!
# The throttle, by the whole history

`Pace` remembers two moments only.  What they have to stand for is said here by the visits alone:
since when the client has been active, which delay a visit has to keep, and when it is due.  The
visits are listed with the latest one first, so what is earlier than a visit stands behind it.

`Pace.ofVisits` is what is left of a history in a pace.  A turn that is decided by that pace is
decided as the history asks for (`due_of_nextTurn_none`, `due_of_nextTurn_some`), and no event loses
anything that counts (`Throttled.step`).  So every visit starts at the moment at which it is due
(`start_eq_due`).
-/

namespace AnidbClient

/-! ## What the history asks for -/

namespace Limits

variable (l : Limits)

/-- Since when the client has been active at a turn, after these visits: the latest turn up to this
one that is the first, or that comes after a silence long enough to count anew. -/
def activeSince (turn : Instant) : List Visit → Instant
  | [] => turn
  | u :: earlier =>
    if u.close?.any (fun last => l.resetPeriod < turn - last) then turn
    else activeSince u.turn earlier

/-- The delay that a visit has to keep after the earlier ones. -/
def delay (earlier : List Visit) (v : Visit) : Duration :=
  if !v.short && l.shortPeriod < v.turn - l.activeSince v.turn earlier then l.longDelay
  else l.shortDelay

/-- When a visit is due: at its turn if it is the first one or the delay is over, and else when the
delay and the margin have passed since the visit before ended. -/
def due (earlier : List Visit) (v : Visit) : Instant :=
  match earlier.head?.bind Visit.close? with
  | none => v.turn
  | some last =>
    if l.delay earlier v < v.turn - last then v.turn else last + l.delay earlier v + safetyMargin

end Limits

/-- What a pace remembers of the visits: when the latest one that is over ended, and since when the
client has been active. -/
def Pace.ofVisits (l : Limits) (vs : List Visit) : Pace where
  lastRequest := (vs.filterMap Visit.close?).head?
  activeSince :=
    match vs with
    | [] => none
    | v :: earlier => some (l.activeSince v.turn earlier)

namespace Turnstile

variable {State Job Stay Result : Type}

/-! ## A turn by what the pace remembers -/

section Pace

variable {l : Limits} {vs earlier : List Visit} {now : Instant} {short : Bool}

theorem lastRequest_ofVisits (hdone : ∀ v ∈ vs, v.close? ≠ none) :
    (Pace.ofVisits l vs).lastRequest = vs.head?.bind Visit.close? := by
  cases vs with
  | nil => rfl
  | cons u earlier =>
    obtain ⟨last, hlast⟩ := Option.ne_none_iff_exists'.1 (hdone u List.mem_cons_self)
    simp [Pace.ofVisits, hlast]

/-- The visit that ends is remembered as the last one. -/
theorem ofVisits_stamp (v : Visit) (earlier : List Visit) (now : Instant) :
    Pace.ofVisits l ({ v with close? := some now } :: earlier) =
      (Pace.ofVisits l (v :: earlier)).stamp now := by
  simp [Pace.ofVisits, Pace.stamp]

/-- Whoever leaves at once is remembered as the last one, and whoever stays is not. -/
theorem eq_ofVisits_of_close {v : Visit} {p q : Pace} {close? : Option Instant}
    (hp : p = Pace.ofVisits l ({ v with close? := none } :: earlier))
    (hclose : close? = none ∧ q = p ∨ close? = some now ∧ q = p.stamp now) :
    q = Pace.ofVisits l ({ v with close? := close? } :: earlier) := by
  rcases hclose with ⟨rfl, rfl⟩ | ⟨rfl, rfl⟩
  · exact hp
  · rw [hp, ← ofVisits_stamp]

/-- The count of activity is restarted at a turn as the history asks for. -/
theorem eq_ofVisits_of_nextTurn (hdone : ∀ v ∈ vs, v.close? ≠ none) {p : Pace}
    {wait? : Option Duration} (hturn : (Pace.ofVisits l vs).nextTurn l now short = (p, wait?))
    (id : Caller) (start? : Option Instant) :
    p = Pace.ofVisits l (⟨id, short, now, start?, none⟩ :: vs) := by
  rw [show p = ((Pace.ofVisits l vs).nextTurn l now short).1 from (congrArg Prod.fst hturn).symm]
  unfold Pace.nextTurn Pace.isReset
  rw [lastRequest_ofVisits hdone]
  cases vs with
  | nil => rfl
  | cons u earlier =>
    obtain ⟨last, hlast⟩ := Option.ne_none_iff_exists'.1 (hdone u List.mem_cons_self)
    by_cases hreset : l.resetPeriod < now - last
    · simp [Pace.ofVisits, Limits.activeSince, hlast, hreset]
    · simp [Pace.ofVisits, Limits.activeSince, hlast, hreset]

/-- The delay that is told is the one that the history asks for. -/
theorem currentDelay_ofVisits (hdone : ∀ v ∈ vs, v.close? ≠ none) (id : Caller)
    (start? : Option Instant) :
    (Pace.ofVisits l vs).currentDelay l now short =
      l.delay vs ⟨id, short, now, start?, none⟩ := by
  unfold Pace.currentDelay Pace.isReset Limits.delay
  rw [lastRequest_ofVisits hdone]
  cases vs with
  | nil => simp [Limits.activeSince]
  | cons u earlier =>
    obtain ⟨last, hlast⟩ := Option.ne_none_iff_exists'.1 (hdone u List.mem_cons_self)
    by_cases hreset : l.resetPeriod < now - last
    · simp [Limits.activeSince, hlast, hreset]
    · simp [Pace.ofVisits, Pace.tier, Pace.active, Limits.activeSince, hlast, hreset]

/-- A turn without a wait is due at once. -/
theorem due_of_nextTurn_none (hdone : ∀ v ∈ vs, v.close? ≠ none) {p : Pace}
    (hturn : (Pace.ofVisits l vs).nextTurn l now short = (p, none)) (id : Caller)
    (start? : Option Instant) : l.due vs ⟨id, short, now, start?, none⟩ = now := by
  unfold Limits.due
  cases hlast : vs.head?.bind Visit.close? with
  | none => rfl
  | some last =>
    have hsilence := Pace.currentDelay_lt_of_nextTurn hturn
      ((lastRequest_ofVisits hdone).trans hlast)
    rw [currentDelay_ofVisits hdone id start?] at hsilence
    exact if_pos hsilence

/-- The rest of a delay ends when the whole delay has passed since it began. -/
private theorem rest_of_delay {last now delay margin : Nat} (hle : last ≤ now)
    (hsilence : now - last ≤ delay) :
    last + delay + margin = now + (delay - (now - last) + margin) := by
  omega

/-- A wait lasts until the turn is due. -/
theorem due_of_nextTurn_some (hdone : ∀ v ∈ vs, v.close? ≠ none)
    (hpast : ∀ v ∈ vs, ∀ t, v.close? = some t → t ≤ now) {p : Pace} {wait : Duration}
    (hturn : (Pace.ofVisits l vs).nextTurn l now short = (p, some wait)) (id : Caller)
    (start? : Option Instant) :
    l.due vs ⟨id, short, now, start?, none⟩ = now + wait ∧
      wait ≤ max l.shortDelay l.longDelay + safetyMargin := by
  obtain ⟨last, hlast, hsilence, hwait⟩ := Pace.exists_of_nextTurn_some hturn
  rw [lastRequest_ofVisits hdone] at hlast
  rw [currentDelay_ofVisits hdone id start?] at hsilence hwait
  have hle : last ≤ now := by
    obtain ⟨u, hu, hclose⟩ := Option.bind_eq_some_iff.1 hlast
    exact hpast u (List.mem_of_mem_head? hu) last hclose
  have hdelay : l.delay vs ⟨id, short, now, start?, none⟩ ≤ max l.shortDelay l.longDelay := by
    unfold Limits.delay
    split
    · exact Nat.le_max_right _ _
    · exact Nat.le_max_left _ _
  unfold Limits.due
  rw [hlast, hwait]
  dsimp only
  rw [if_neg (Nat.not_lt.2 hsilence)]
  refine ⟨rest_of_delay hle hsilence, Nat.add_le_add_right ?_ _⟩
  exact Nat.le_trans (Nat.sub_le _ _) hdelay

end Pace

/-! ## The law, and what it rests on -/

/-- A visit keeps the law: it starts when it is due, is called away by then if it never starts, and
in any case is due more than its delay after the end of the visit before. -/
structure Timely (l : Limits) (earlier : List Visit) (v : Visit) : Prop where
  started : ∀ t, v.start? = some t → t = l.due earlier v
  unstarted : v.start? = none → ∀ t, v.close? = some t → t ≤ l.due earlier v
  apart : ∀ u ∈ earlier.head?, ∃ last, u.close? = some last ∧ last ≤ v.turn ∧
    last + l.delay earlier v < l.due earlier v

/-- All visits keep the law. -/
def AllTimely (l : Limits) : List Visit → Prop
  | [] => True
  | v :: earlier => Timely l earlier v ∧ AllTimely l earlier

/-- The pace is what is left of the history, and whoever keeps a delay keeps it until it is due. -/
structure Throttled (l : Limits) (w : Turnstile State Job Stay Result) (vs : List Visit) :
    Prop where
  pace : w.pace = Pace.ofVisits l vs
  past : ∀ v ∈ vs, ∀ t, v.close? = some t → t ≤ w.now
  waits : ∀ id j ready, w.stage id = some (.pacing j ready) → ∃ v earlier, vs = v :: earlier ∧
    v.caller = id ∧ v.start? = none ∧ v.close? = none ∧ ready = l.due earlier v ∧ w.now ≤ ready
  timely : AllTimely l vs

section Throttled

variable {sv : Service State Job Stay Result} {l : Limits}
  {w w' : Turnstile State Job Stay Result} {vs vs' earlier : List Visit} {v : Visit}

/-- Whatever is due comes more than the delay after the visit before. -/
theorem lt_due {last : Instant} (hlast : earlier.head?.bind Visit.close? = some last) :
    last + l.delay earlier v < l.due earlier v := by
  have hmargin : 0 < safetyMargin := by decide
  unfold Limits.due
  rw [hlast]
  dsimp only
  split
  · rename_i hsilence
    exact Nat.add_lt_of_lt_sub' hsilence
  · exact Nat.lt_add_of_pos_right hmargin

/-- A visit that has just got its turn is due later than the delay allows. -/
theorem apart_of_turn (hdone : ∀ u ∈ vs, u.close? ≠ none)
    (hpast : ∀ u ∈ vs, ∀ t, u.close? = some t → t ≤ v.turn) :
    ∀ u ∈ vs.head?, ∃ last, u.close? = some last ∧ last ≤ v.turn ∧
      last + l.delay vs v < l.due vs v := by
  intro u hu
  have hmem := List.mem_of_mem_head? hu
  obtain ⟨last, hlast⟩ := Option.ne_none_iff_exists'.1 (hdone u hmem)
  have hle := hpast u hmem last hlast
  refine ⟨last, hlast, hle, lt_due ?_⟩
  rw [Option.mem_def.1 hu, Option.bind_some, hlast]

theorem throttled_opened (l : Limits) (t : State) :
    Throttled l (opened t : Turnstile State Job Stay Result) [] where
  pace := rfl
  past v hv := by cases hv
  waits id j ready hid := by cases hid
  timely := trivial

/-- Whoever leaves at once leaves now. -/
private theorem le_of_close {now now' : Instant} {close? : Option Instant} {p q : Prop}
    (hclose : close? = none ∧ p ∨ close? = some now ∧ q) (hnow : now ≤ now') :
    ∀ t, close? = some t → t ≤ now' := by
  rcases hclose with ⟨rfl, _⟩ | ⟨rfl, _⟩
  · intro t ht
    cases ht
  · intro t ht
    exact Option.some.inj ht ▸ hnow

/-- Whoever keeps a delay keeps it until the latest visit is due. -/
theorem Throttled.due_of_pacing (h : Throttled l w (v :: earlier)) {id : Caller} {j : Job}
    {ready : Instant} (hstage : w.stage id = some (.pacing j ready)) :
    v.close? = none ∧ ready = l.due earlier v ∧ w.now ≤ ready := by
  obtain ⟨v', earlier', hvs, _, _, hopen, hready, hle⟩ := h.waits id j ready hstage
  obtain ⟨rfl, rfl⟩ := List.cons.inj hvs
  exact ⟨hopen, hready, hle⟩

/-- Every event keeps the law, if no time passes beyond the end of a sleep. -/
theorem Throttled.step (h : Throttled l w vs)
    (hclock : ∀ d ≤ max l.shortDelay l.longDelay + safetyMargin, sv.clock.lasts d = d)
    (hrecounts : Recounts sv l w w' vs vs') (hnow : w.now ≤ w'.now)
    (hsleep : ∀ id j ready, w.stage id = some (.pacing j ready) → w'.now ≤ ready) :
    Throttled l w' vs' := by
  have hpast : ∀ u ∈ vs, ∀ t, u.close? = some t → t ≤ w'.now :=
    fun u hu t ht => Nat.le_trans (h.past u hu t ht) hnow
  cases hrecounts with
  | rest hpace hpacing =>
    refine ⟨hpace.trans h.pace, hpast, ?_, h.timely⟩
    intro id j ready hid
    have hbefore := hpacing id j ready hid
    obtain ⟨v, earlier, hvs, hv, hstart, hclose, hready, _⟩ := h.waits id j ready hbefore
    exact ⟨v, earlier, hvs, hv, hstart, hclose, hready, hsleep id j ready hbefore⟩
  | @pace _ id j wait hsame hdone hturn hpacing =>
    rw [h.pace] at hturn
    obtain ⟨hdue, hlong⟩ := due_of_nextTurn_some hdone h.past hturn id none
    refine ⟨eq_ofVisits_of_nextTurn hdone hturn id none, ?_, ?_,
      ⟨?_, ?_, apart_of_turn hdone h.past⟩, h.timely⟩
    · exact List.forall_mem_cons.2 ⟨fun t ht => (by cases ht), hpast⟩
    · intro k j' ready hk
      obtain ⟨rfl, rfl⟩ := hpacing k j' ready hk
      rw [hclock wait hlong, hsame]
      exact ⟨_, _, rfl, rfl, rfl, rfl, hdue.symm, Nat.le_add_right _ _⟩
    · intro t ht
      cases ht
    · intro _ t ht
      cases ht
  | @enter _ id j p close? hdone hturn hclose hnone =>
    rw [h.pace] at hturn
    have hdue := due_of_nextTurn_none hdone hturn id (some w.now)
    have hp := eq_ofVisits_of_nextTurn hdone hturn id (some w.now)
    refine ⟨eq_ofVisits_of_close (v := ⟨id, _, w.now, some w.now, none⟩) hp hclose, ?_,
      fun k j' ready hk => absurd hk (hnone k j' ready), ⟨?_, ?_, apart_of_turn hdone h.past⟩,
      h.timely⟩
    · exact List.forall_mem_cons.2 ⟨le_of_close hclose hnow, hpast⟩
    · intro t ht
      cases ht
      exact hdue.symm
    · intro hstart
      cases hstart
  | @letIn earlier v j ready close? hstage hready hclose hnone =>
    obtain ⟨hopen, hdue, hle⟩ := h.due_of_pacing hstage
    have hp : w.pace =
        Pace.ofVisits l ({ v with start? := some w.now, close? := none } :: earlier) := by
      rw [h.pace]
      simp [Pace.ofVisits, hopen]
    refine ⟨eq_ofVisits_of_close hp hclose, ?_,
      fun k j' ready' hk => absurd hk (hnone k j' ready'), ⟨?_, ?_, h.timely.1.apart⟩, h.timely.2⟩
    · exact List.forall_mem_cons.2
        ⟨le_of_close hclose hnow, (List.forall_mem_cons.1 hpast).2⟩
    · intro t ht
      cases ht
      exact (Nat.le_antisymm hle hready).trans hdue
    · intro hstart
      cases hstart
  | @leave earlier v hstarted hpace hnone =>
    refine ⟨?_, ?_, fun k j' ready' hk => absurd hk (hnone k j' ready'),
      ⟨h.timely.1.started, ?_, h.timely.1.apart⟩, h.timely.2⟩
    · rw [hpace, h.pace, ofVisits_stamp]
    · exact List.forall_mem_cons.2
        ⟨fun t ht => Option.some.inj ht ▸ hnow, (List.forall_mem_cons.1 hpast).2⟩
    · intro hstart t ht
      cases ht
      rcases hstarted with ⟨j, ready, hstage⟩ | hsome
      · obtain ⟨_, hdue, hle⟩ := h.due_of_pacing hstage
        exact Nat.le_trans hle (Nat.le_of_eq hdue)
      · exact absurd hstart hsome

end Throttled

/-! ## Every run -/

section Run

variable (sv : Service State Job Stay Result) (l : Limits)

/-- Whoever sleeps goes on at the moment at which its sleep is over: no time passes beyond it. -/
def Punctual (w : Turnstile State Job Stay Result) (events : List (Event Job)) : Prop :=
  ∀ before d rest, events = before ++ .tick d :: rest → ∀ id j ready,
    (w.run sv l before).stage id = some (.pacing j ready) → (w.run sv l before).now + d ≤ ready

variable {sv} {l}

theorem Punctual.of_append {w : Turnstile State Job Stay Result} {events later : List (Event Job)}
    (hpunctual : Punctual sv l w (events ++ later)) : Punctual sv l w events := by
  rintro before d rest rfl
  exact hpunctual before d (rest ++ later) (by simp)

/-- If time passes, it does not pass beyond the moment at which the first in line can go on. -/
def keepsTime (w : Turnstile State Job Stay Result) : Event Job → Bool
  | .tick d =>
    match w.line.head?.bind w.stage with
    | some (.pacing _ ready) => w.now + d ≤ ready
    | _ => true
  | _ => true

/-- Only the first in line sleeps, so it is enough to look at that one. -/
theorem punctual_of_keepsTime {w : Turnstile State Job Stay Result} {events : List (Event Job)}
    (hw : w.Orderly)
    (hkeeps : ∀ i, (hi : i < events.length) →
      (w.run sv l (events.take i)).keepsTime events[i] = true) : Punctual sv l w events := by
  rintro before d rest rfl id j ready hstage
  have hhead := (orderly_run sv l hw before).head?_of_pacing hstage
  have htick := hkeeps before.length (by simp)
  rw [List.take_left, List.getElem_append_right (Nat.le_refl _)] at htick
  simpa [keepsTime, hhead, hstage] using htick

theorem throttled_run
    (hclock : ∀ d ≤ max l.shortDelay l.longDelay + safetyMargin, sv.clock.lasts d = d) (t : State)
    {events : List (Event Job)} (hpunctual : Punctual sv l (opened t) events) :
    Throttled l ((opened t).run sv l events) (visits sv l (opened t) events) := by
  induction events using List.reverseRecOn with
  | nil => exact throttled_opened l t
  | append_singleton events e ih =>
    have h := ih hpunctual.of_append
    have hnow := now_step sv l ((opened t).run sv l events) e
    rw [← run_concat] at hnow
    refine h.step hclock (recounts_run sv l t events e) ?_ ?_
    · rcases hnow with hsame | ⟨d, _, hlater⟩
      · exact Nat.le_of_eq hsame.symm
      · rw [hlater]
        exact Nat.le_add_right _ _
    · intro id j ready hid
      rcases hnow with hsame | ⟨d, rfl, hlater⟩
      · obtain ⟨_, _, _, _, _, _, _, hle⟩ := h.waits id j ready hid
        rw [hsame]
        exact hle
      · rw [hlater]
        exact hpunctual events d [] rfl id j ready hid

theorem AllTimely.of_append {later earlier : List Visit} {v : Visit}
    (h : AllTimely l (later ++ v :: earlier)) : Timely l earlier v := by
  induction later with
  | nil => exact h.1
  | cons u later ih => exact ih h.2

/-- Every visit starts at the moment at which the visits before it say that it is due, unless it is
called away by then; and that is more than its delay after the visit before has ended. -/
theorem start_eq_due
    (hclock : ∀ d ≤ max l.shortDelay l.longDelay + safetyMargin, sv.clock.lasts d = d) (t : State)
    (events : List (Event Job)) (hpunctual : Punctual sv l (opened t) events)
    {later earlier : List Visit} {v : Visit}
    (hvisits : visits sv l (opened t) events = later ++ v :: earlier) :
    let w := (opened t : Turnstile State Job Stay Result).run sv l events
    (∀ start, v.start? = some start → start = l.due earlier v) ∧
      (v.start? = none →
        (∃ close ≤ l.due earlier v, v.close? = some close) ∨
          w.now ≤ l.due earlier v ∧ ∃ j, w.stage v.caller = some (.pacing j (l.due earlier v))) ∧
      ∀ u ∈ earlier.head?, ∃ last, u.close? = some last ∧ last ≤ v.turn ∧
        last + l.delay earlier v < l.due earlier v := by
  intro w
  have htracks : Tracks w (visits sv l (opened t) events) := tracks_run sv l t events
  have hthrottled : Throttled l w (visits sv l (opened t) events) :=
    throttled_run hclock t hpunctual
  rw [hvisits] at htracks hthrottled
  have htimely : Timely l earlier v := hthrottled.timely.of_append
  refine ⟨htimely.started, fun hstart => ?_, htimely.apart⟩
  cases hclose : v.close? with
  | some close => exact .inl ⟨close, htimely.unstarted hstart close hclose, rfl⟩
  | none =>
    right
    have hmem : v ∈ later ++ v :: earlier := List.mem_append_right _ List.mem_cons_self
    obtain ⟨s, hs, hturn⟩ := htracks.turned v hmem hclose
    cases s with
    | pacing j ready =>
      cases later with
      | nil =>
        obtain ⟨_, rfl, hle⟩ := hthrottled.due_of_pacing hs
        exact ⟨hle, j, hs⟩
      | cons u later =>
        have hover := htracks.parted v (List.mem_append_right later List.mem_cons_self)
        exact absurd hclose hover
    | inside y =>
      obtain ⟨start, hsome⟩ := start?_of_follow (htracks.follows v hmem) hs rfl
      rw [hstart] at hsome
      cases hsome
    | _ => cases hturn

/-- A second after a chore a second one comes, and keeps its delay. -/
def twoChores : List (Event Chore) :=
  [.call 0 (.job ⟨false, 0, false⟩), .poll 0, .tick (.ofSecs 1), .call 1 (.job ⟨false, 0, false⟩),
    .poll 1, .tick (.ofMillis 1550), .poll 1]

theorem start_eq_due_of_twoChores :
    ∃ v earlier, visits (Chore.service .exact) .default (opened ()) twoChores = v :: earlier ∧
      v.start? = some (Duration.ofMillis 2550) ∧
      Limits.default.due earlier v = Duration.ofMillis 2550 := by
  have hpunctual : Punctual (Chore.service .exact) .default (opened ()) twoChores :=
    punctual_of_keepsTime (orderly_opened ()) (by decide +kernel)
  have hvisits : visits (Chore.service .exact) .default (opened ()) twoChores =
      [⟨1, false, Duration.ofSecs 1, some (Duration.ofMillis 2550), some (Duration.ofMillis 2550)⟩,
        ⟨0, false, 0, some 0, some 0⟩] := by
    decide +kernel
  obtain ⟨hstart, _⟩ := start_eq_due (fun _ _ => rfl) () twoChores hpunctual
    (hvisits.trans (List.nil_append _).symm)
  exact ⟨_, _, hvisits, rfl, (hstart _ rfl).symm⟩

end Run

end Turnstile

end AnidbClient
