import AnidbClient.Chore
import AnidbClient.Proofs.Limiter
import AnidbClient.Proofs.Turnstile.Visits
import AnidbClient.Settings

/-!
# The clock arithmetic of the limiter

`Pace` takes differences of moments and of spans, and cuts them off at zero; it adds a margin
without looking whether a span can be that long.  None of this ever matters.

* `Duration.minus?` and `Duration.plus?` fail where a difference would be negative and where a sum
  would be too long.  `Pace.exactTurn?` and `Pace.exactDelay?` decide as `Pace` does, by these.
* `Pace.Ordered` is what they need: the moments that are remembered stand in the order in which
  they came.
* `Chronological` is the invariant.  The moments need not both be known while somebody has its turn,
  for the first one that has its turn has begun the activity and not ended it.

`arithmetic_exact` is the law, for all settings.
-/

namespace AnidbClient

/-! ## Spans that cannot be cut off -/

namespace Duration

/-- The longest span: it has no more seconds than 64 bits can count. -/
def longest : Duration := .ofParts (UInt64.size - 1) 999999999

/-- The difference of two spans, or of two moments, unless it is negative. -/
def minus? (a b : Duration) : Option Duration :=
  if b ≤ a then some (a - b) else none

/-- The sum of two spans, unless it is too long. -/
def plus? (a b : Duration) : Option Duration :=
  if a + b ≤ longest then some (a + b) else none

theorem minus?_of_le {a b : Duration} (h : b ≤ a) : a.minus? b = some (a - b) :=
  if_pos h

theorem plus?_of_le {a b : Duration} (h : a + b ≤ longest) : a.plus? b = some (a + b) :=
  if_pos h

end Duration

/-- Either delay can be lengthened by the margin. -/
structure Limits.Fits (l : Limits) : Prop where
  short : l.shortDelay + safetyMargin ≤ Duration.longest
  long : l.longDelay + safetyMargin ≤ Duration.longest

theorem Settings.Spacing.limits_fits (s : Settings.Spacing) : s.limits.Fits := by
  have hfits : ∀ n : UInt64, Duration.ofMillis n.toNat + safetyMargin ≤ Duration.longest := by
    intro n
    have hn := n.toNat_lt
    show n.toNat * 1000000 + 50 * 1000000 ≤ (2 ^ 64 - 1) * 1000000000 + 999999999
    omega
  exact ⟨hfits s.shortDelayMs, hfits s.longDelayMs⟩

namespace Pace

/-! ## Deciding without cutting off -/

/-- The time for which the client has been active. -/
def exactActive? (p : Pace) (now : Instant) : Option Duration :=
  p.activeSince.elim (some 0) (Duration.minus? now)

/-- The delay by the present activity. -/
def exactTier? (l : Limits) (p : Pace) (now : Instant) (short : Bool) : Option Duration :=
  (p.exactActive? now).map fun active =>
    if !short && l.shortPeriod < active then l.longDelay else l.shortDelay

/-- The wait of a packet that comes `elapsed` after the last one and has to keep `delay`; none if
the delay is over. -/
def exactWait? (delay elapsed : Duration) : Option (Option Duration) :=
  if delay < elapsed then some none
  else ((delay.minus? elapsed).bind (·.plus? safetyMargin)).map some

/-- What is remembered once the next packet has its turn, and the wait it has to keep, if any. -/
def exactTurn? (l : Limits) (p : Pace) (now : Instant) (short : Bool) :
    Option (Pace × Option Duration) :=
  match p.lastRequest with
  | none => some ({ p with activeSince := some now }, none)
  | some last => do
    let elapsed ← Duration.minus? now last
    -- The activity that is over is logged, so it is worked out as well.
    let p' ← if l.resetPeriod < elapsed then
        (p.exactActive? now).map fun _ => { p with activeSince := some now }
      else some p
    let delay ← p'.exactTier? l now short
    return (p', ← exactWait? delay elapsed)

/-- The delay that the next packet would be held to. -/
def exactDelay? (l : Limits) (p : Pace) (now : Instant) (short : Bool) : Option Duration :=
  match p.lastRequest with
  | none => some l.shortDelay
  | some last => do
    let elapsed ← Duration.minus? now last
    if l.resetPeriod < elapsed then some l.shortDelay else p.exactTier? l now short

/-! ## Moments in order -/

/-- Either no moment is remembered or both are, and they stand in the order in which they came. -/
structure Ordered (p : Pace) (now : Instant) : Prop where
  both : p.activeSince.isSome ↔ p.lastRequest.isSome
  since_le : ∀ since last, p.activeSince = some since → p.lastRequest = some last → since ≤ last
  last_le : ∀ last, p.lastRequest = some last → last ≤ now

/-- The client has been active since some moment that has come. -/
def Active (p : Pace) (now : Instant) : Prop :=
  ∃ since, p.activeSince = some since ∧ since ≤ now

variable {l : Limits} {p q : Pace} {now later : Instant} {short : Bool}

theorem ordered_fresh (now : Instant) : fresh.Ordered now where
  both := Iff.rfl
  since_le since last hsince := by cases hsince
  last_le last hlast := by cases hlast

theorem Ordered.mono (h : p.Ordered now) (hle : now ≤ later) : p.Ordered later :=
  ⟨h.both, h.since_le, fun last hlast => Nat.le_trans (h.last_le last hlast) hle⟩

theorem Active.mono (h : p.Active now) (hle : now ≤ later) : p.Active later := by
  obtain ⟨since, hsince, hpast⟩ := h
  exact ⟨since, hsince, Nat.le_trans hpast hle⟩

theorem Ordered.since_le_now (h : p.Ordered now) {since : Instant}
    (hsince : p.activeSince = some since) : since ≤ now := by
  have hboth := h.both
  rw [hsince] at hboth
  obtain ⟨last, hlast⟩ := Option.isSome_iff_exists.1 (hboth.1 rfl)
  exact Nat.le_trans (h.since_le since last hsince hlast) (h.last_le last hlast)

/-- An active client whose packet ends now has all its moments in order. -/
theorem Active.ordered_stamp (h : p.Active now) : (p.stamp now).Ordered now := by
  obtain ⟨since, hsince, hpast⟩ := h
  refine ⟨?_, ?_, ?_⟩
  · show p.activeSince.isSome = true ↔ true = true
    rw [hsince]
    exact Iff.rfl
  · intro since' last hsince' hlast
    obtain rfl : since = since' := Option.some.inj (hsince.symm.trans hsince')
    obtain rfl : now = last := Option.some.inj hlast
    exact hpast
  · intro last hlast
    exact Nat.le_of_eq (Option.some.inj hlast).symm

/-- Whoever has its turn makes the client active. -/
theorem Ordered.active_nextTurn (h : p.Ordered now) {wait? : Option Duration}
    (hturn : p.nextTurn l now short = (q, wait?)) : q.Active now := by
  have hq : q = if p.isReset l now then { p with activeSince := some now } else p :=
    (congrArg Prod.fst hturn).symm
  by_cases hreset : p.isReset l now = true
  · rw [hq, if_pos hreset]
    exact ⟨now, rfl, Nat.le_refl now⟩
  · rw [hq, if_neg hreset]
    cases hlast : p.lastRequest with
    | none =>
      unfold isReset at hreset
      rw [hlast] at hreset
      exact absurd rfl hreset
    | some last =>
      obtain ⟨since, hsince⟩ := Option.isSome_iff_exists.1 (h.both.2 (by rw [hlast]; rfl))
      exact ⟨since, hsince, h.since_le_now hsince⟩

/-! ## Nothing is cut off -/

theorem exactActive?_eq (h : ∀ since, p.activeSince = some since → since ≤ now) :
    p.exactActive? now = some (p.active now) := by
  unfold exactActive? active
  cases hsince : p.activeSince with
  | none => rfl
  | some since => exact Duration.minus?_of_le (h since hsince)

theorem exactTier?_eq (h : ∀ since, p.activeSince = some since → since ≤ now) :
    p.exactTier? l now short = some (p.tier l now short) := by
  unfold exactTier?
  rw [exactActive?_eq h]
  rfl

theorem Ordered.exactDelay?_eq (h : p.Ordered now) :
    p.exactDelay? l now short = some (p.currentDelay l now short) := by
  unfold exactDelay? currentDelay isReset
  cases hlast : p.lastRequest with
  | none => rfl
  | some last =>
    simp only [Duration.minus?_of_le (h.last_le last hlast), Option.bind_eq_bind,
      Option.bind_some, exactTier?_eq fun _ => h.since_le_now, Option.all_some]
    by_cases hreset : l.resetPeriod < now - last <;> simp [hreset]

theorem tier_add_le (hl : l.Fits) : p.tier l now short + safetyMargin ≤ Duration.longest := by
  unfold tier
  split
  · exact hl.long
  · exact hl.short

theorem exactWait?_eq {delay : Duration} (hdelay : delay + safetyMargin ≤ Duration.longest)
    (elapsed : Duration) : exactWait? delay elapsed = some (wait? delay elapsed) := by
  unfold exactWait? wait?
  split
  · rfl
  · rename_i hover
    have hrest : delay - elapsed + safetyMargin ≤ Duration.longest :=
      Nat.le_trans (Nat.add_le_add_right (Nat.sub_le _ _) _) hdelay
    rw [Duration.minus?_of_le (Nat.le_of_not_lt hover), Option.bind_some,
      Duration.plus?_of_le hrest]
    rfl

theorem Ordered.exactTurn?_eq (h : p.Ordered now) (hl : l.Fits) :
    p.exactTurn? l now short = some (p.nextTurn l now short) := by
  -- The delay and the wait of a turn, whether activity was counted anew or not.
  have hwait : ∀ (q : Pace) elapsed, (∀ since, q.activeSince = some since → since ≤ now) →
      ((q.exactTier? l now short).bind fun delay =>
        (exactWait? delay elapsed).bind fun wait => some (q, wait)) =
          some (q, wait? (q.tier l now short) elapsed) := by
    intro q elapsed hq
    rw [exactTier?_eq hq, Option.bind_some, exactWait?_eq (tier_add_le hl)]
    rfl
  unfold exactTurn? nextTurn isReset
  cases hlast : p.lastRequest with
  | none => rfl
  | some last =>
    have hactive : p.exactActive? now = some (p.active now) :=
      exactActive?_eq fun _ => h.since_le_now
    simp only [Duration.minus?_of_le (h.last_le last hlast), Option.bind_eq_bind,
      Option.bind_some, Option.pure_def, hactive, Option.all_some, decide_eq_true_eq]
    by_cases hreset : l.resetPeriod < now - last
    · rw [if_pos hreset, if_pos hreset]
      exact hwait _ _ fun since hsince => Nat.le_of_eq (Option.some.inj hsince).symm
    · rw [if_neg hreset, if_neg hreset]
      exact hwait p _ fun _ => h.since_le_now

end Pace

namespace Turnstile

variable {State Job Stay Result : Type}

/-! ## The moments of a run -/

/-- Nobody has its turn. -/
def Free (w : Turnstile State Job Stay Result) : Prop :=
  ∀ id s, w.stage id = some s → s.hasTurn = false

/-- Somebody that had its turn has made the client active, and once everybody has left, all moments
are in order. -/
structure Chronological (w : Turnstile State Job Stay Result) (vs : List Visit) : Prop where
  active : vs ≠ [] → w.pace.Active w.now
  ordered : (∀ v ∈ vs, v.close? ≠ none) → w.pace.Ordered w.now

section Chronological

variable {sv : Service State Job Stay Result} {l : Limits}
  {w w' : Turnstile State Job Stay Result} {vs vs' : List Visit}

/-- The latest visit stays open, or it closes and the moment is remembered. -/
theorem chronological_of_close {p : Pace} {v : Visit} {earlier : List Visit}
    {close? : Option Instant} (hp : p.Active w.now) (hnow : w.now ≤ w'.now)
    (hv : v.close? = close?)
    (hclose : close? = none ∧ w'.pace = p ∨ close? = some w.now ∧ w'.pace = p.stamp w.now) :
    Chronological w' (v :: earlier) := by
  rcases hclose with ⟨rfl, hpace⟩ | ⟨rfl, hpace⟩
  · exact ⟨fun _ => hpace ▸ hp.mono hnow, fun hdone => absurd hv (hdone v List.mem_cons_self)⟩
  · refine ⟨fun _ => ?_, fun _ => hpace ▸ hp.ordered_stamp.mono hnow⟩
    rw [hpace]
    exact hp.mono hnow

/-- Whoever has its turn finds all moments in order, and whoever leaves was active until now. -/
theorem Chronological.recounts (h : Chronological w vs) (hr : Recounts sv l w w' vs vs')
    (hnow : w.now ≤ w'.now) : Chronological w' vs' := by
  cases hr with
  | rest hpace =>
    exact ⟨fun hne => hpace ▸ (h.active hne).mono hnow,
      fun hdone => hpace ▸ (h.ordered hdone).mono hnow⟩
  | pace _ hdone hturn =>
    exact chronological_of_close ((h.ordered hdone).active_nextTurn hturn) hnow rfl
      (.inl ⟨rfl, rfl⟩)
  | enter hdone hturn hclose =>
    exact chronological_of_close ((h.ordered hdone).active_nextTurn hturn) hnow rfl hclose
  | letIn _ _ hclose =>
    exact chronological_of_close (h.active (List.cons_ne_nil _ _)) hnow rfl hclose
  | leave _ hpace =>
    exact chronological_of_close (h.active (List.cons_ne_nil _ _)) hnow rfl (.inr ⟨rfl, hpace⟩)

theorem chronological_run (sv : Service State Job Stay Result) (l : Limits) (t : State)
    (events : List (Event Job)) :
    Chronological ((opened t).run sv l events) (visits sv l (opened t) events) := by
  induction events using List.reverseRecOn with
  | nil => exact ⟨fun hne => absurd rfl hne, fun _ => Pace.ordered_fresh _⟩
  | append_singleton events e ih =>
    refine ih.recounts (recounts_run sv l t events e) ?_
    rw [run_concat]
    rcases now_step sv l ((opened t).run sv l events) e with hsame | ⟨d, -, hlater⟩
    · exact Nat.le_of_eq hsame.symm
    · exact hlater ▸ Nat.le_add_right _ d

/-- While nobody has its turn, all moments are in order. -/
theorem Free.ordered {t : State} {events : List (Event Job)}
    (h : ((opened t).run sv l events).Free) :
    ((opened t).run sv l events).pace.Ordered ((opened t).run sv l events).now := by
  refine (chronological_run sv l t events).ordered fun v hv hopen => ?_
  obtain ⟨s, hstage, hturn⟩ := (tracks_run sv l t events).turned v hv hopen
  rw [h v.caller s hstage] at hturn
  cases hturn

/-- While the first one in line waits, nobody has its turn. -/
theorem Orderly.free (hw : w.Orderly) {id : Caller} {ticket : Ticket Job}
    (hhead : w.line.head? = some id) (hstage : w.stage id = some (.waiting ticket)) : w.Free := by
  intro k s hk
  by_cases heq : k = id
  · subst heq
    obtain rfl := Option.some.inj (hstage.symm.trans hk)
    rfl
  · exact hw.hasTurn_eq_false hhead heq hk

/-- For all settings, whenever nobody has its turn and whatever time has passed since, the limiter
decides without cutting anything off: the moments that it remembers are in order, no difference
that it takes is negative and no sum too long, and a wait that it asks for is at least the margin
and at most the delay and the margin.  The one who is first in line finds that nobody has its
turn. -/
theorem arithmetic_exact (sv : Service State Job Stay Result) (s : Settings.Spacing) (t : State)
    (events : List (Event Job)) :
    let w := (opened t).run sv s.limits events
    (∀ id ticket, w.line.head? = some id → w.stage id = some (.waiting ticket) → w.Free) ∧
      (w.Free → ∀ now ≥ w.now, w.pace.Ordered now ∧ ∀ short,
        w.pace.exactTurn? s.limits now short = some (w.pace.nextTurn s.limits now short) ∧
        w.pace.exactDelay? s.limits now short = some (w.pace.currentDelay s.limits now short) ∧
        ∀ p wait, w.pace.nextTurn s.limits now short = (p, some wait) →
          p.tier s.limits now short = w.pace.currentDelay s.limits now short ∧
          .ofMillis 50 ≤ wait ∧
          wait ≤ w.pace.currentDelay s.limits now short + .ofMillis 50) := by
  intro w
  have hw : w.Orderly := orderly_run sv s.limits (orderly_opened t) events
  refine ⟨fun id ticket hhead hstage => hw.free hhead hstage, fun hfree now hnow => ?_⟩
  have hordered : w.pace.Ordered now := (Free.ordered hfree).mono hnow
  refine ⟨hordered, fun short => ⟨hordered.exactTurn?_eq s.limits_fits, hordered.exactDelay?_eq,
    fun p wait hturn => ?_⟩⟩
  have htier := Pace.tier_nextTurn s.limits w.pace now short
  rw [hturn] at htier
  obtain ⟨last, -, -, hwait⟩ := Pace.exists_of_nextTurn_some hturn
  rw [hwait]
  exact ⟨htier, Nat.le_add_left _ _, Nat.add_le_add_right (Nat.sub_le _ _) _⟩

/-- No setting is greater than these. -/
def utmost : Settings.Spacing where
  shortDelayMs := .ofNat (UInt64.size - 1)
  longDelayMs := .ofNat (UInt64.size - 1)
  shortPeriodSecs := .ofNat (UInt64.size - 1)
  resetPeriodSecs := .ofNat (UInt64.size - 1)

/-- A chore is done, and another one is asked for at once. -/
def choreAfterChore : List (Event Chore) :=
  [.call 0 (.job ⟨false, 0, false⟩), .poll 0, .call 1 (.job ⟨false, 0, false⟩)]

/-- The longest wait that can be set, with the margin. -/
theorem arithmetic_exact_of_utmost :
    let w := (opened ()).run (Chore.service .exact) utmost.limits choreAfterChore
    let wait := Duration.ofMillis 18446744073709551615 + Duration.ofMillis 50
    w.Free ∧
      w.pace.exactTurn? utmost.limits w.now false = some (⟨some 0, some 0⟩, some wait) ∧
      wait ≤ w.pace.currentDelay utmost.limits w.now false + Duration.ofMillis 50 := by
  intro w wait
  obtain ⟨hfirst, hexact⟩ := arithmetic_exact (Chore.service .exact) utmost () choreAfterChore
  have hfree : w.Free := hfirst 1 (.job ⟨false, 0, false⟩) rfl rfl
  have hturn : w.pace.nextTurn utmost.limits w.now false = (⟨some 0, some 0⟩, some wait) := by
    decide +kernel
  obtain ⟨-, hturns⟩ := hexact hfree w.now (Nat.le_refl _)
  obtain ⟨hplan, -, hbounds⟩ := hturns false
  exact ⟨hfree, hplan.trans (congrArg some hturn), (hbounds _ _ hturn).2.2⟩

end Chronological

end Turnstile

end AnidbClient
