import AnidbClient.Limiter

/-!
# The wait before a turn

`Pace.nextTurn` restarts the count of activity and decides about the wait in one go, while
`Pace.currentDelay` only tells the delay.  `nextTurn_wait` says that the wait is the one that
the told delay asks for, so whatever is known of the delay is known of the wait: it lies between
the two delays of the limits (`shortDelay_le_currentDelay`, `currentDelay_le_longDelay`), and a
turn without a wait comes after a silence longer than the delay.
-/

namespace AnidbClient.Pace

variable (l : Limits) (p : Pace) (now : Instant) (short : Bool)

/-- A turn leaves the end of the last packet as it is. -/
theorem lastRequest_nextTurn : (p.nextTurn l now short).1.lastRequest = p.lastRequest := by
  unfold nextTurn
  dsimp only
  split <;> rfl

/-- Activity that begins now has not lasted for any time. -/
theorem tier_of_activeSince_now (h : p.activeSince = some now) :
    p.tier l now short = l.shortDelay := by
  unfold tier active
  rw [h, Option.elim_some, Nat.sub_self]
  simp

/-- A turn is held to the delay that is told at the same moment. -/
theorem tier_nextTurn :
    (p.nextTurn l now short).1.tier l now short = p.currentDelay l now short := by
  unfold nextTurn currentDelay
  dsimp only
  split
  · exact tier_of_activeSince_now l { p with activeSince := some now } now short rfl
  · rfl

/-- The wait is the one that the delay asks for, as it is told at the same moment. -/
theorem nextTurn_wait :
    (p.nextTurn l now short).2 =
      p.lastRequest.bind fun last => wait? (p.currentDelay l now short) (now - last) := by
  rw [← tier_nextTurn]
  rfl

variable {l} {p} {now} {short}

theorem shortDelay_le_currentDelay (hl : l.shortDelay ≤ l.longDelay) :
    l.shortDelay ≤ p.currentDelay l now short := by
  unfold currentDelay tier
  split
  · exact Nat.le_refl _
  · split
    · exact hl
    · exact Nat.le_refl _

theorem currentDelay_le_longDelay (hl : l.shortDelay ≤ l.longDelay) :
    p.currentDelay l now short ≤ l.longDelay := by
  unfold currentDelay tier
  split
  · exact hl
  · split
    · exact Nat.le_refl _
    · exact hl

/-- A turn without a wait comes after a silence longer than the delay. -/
theorem currentDelay_lt_of_nextTurn {q : Pace} {last : Instant}
    (h : p.nextTurn l now short = (q, none)) (hlast : p.lastRequest = some last) :
    p.currentDelay l now short < now - last := by
  have hwait := nextTurn_wait l p now short
  rw [h, hlast, Option.bind_some, wait?] at hwait
  split at hwait
  · assumption
  · cases hwait

/-- A wait makes up for what the silence lacks of the delay, and adds the margin. -/
theorem exists_of_nextTurn_some {q : Pace} {wait : Duration}
    (h : p.nextTurn l now short = (q, some wait)) :
    ∃ last, p.lastRequest = some last ∧ now - last ≤ p.currentDelay l now short ∧
      wait = p.currentDelay l now short - (now - last) + safetyMargin := by
  have hwait := nextTurn_wait l p now short
  rw [h] at hwait
  cases hlast : p.lastRequest with
  | none =>
    rw [hlast] at hwait
    cases hwait
  | some last =>
    rw [hlast, Option.bind_some, wait?] at hwait
    split at hwait
    · cases hwait
    · rename_i hle
      exact ⟨last, rfl, Nat.le_of_not_lt hle, Option.some.inj hwait⟩

end AnidbClient.Pace
