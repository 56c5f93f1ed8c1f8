import AnidbClient.Proofs.Turnstile.Acts
import Mathlib.Data.List.Nodup

/-!
# First come, first served

`Turnstile.asked` writes down who got in line, in the order in which they did.  Callers have their
turn in that order: `InOrder` relates those that were served so far, and those in line behind them,
to those that asked.  Events keep the relation (`InOrder.step`), and so does serving the caller at
the head of the line (`InOrder.serve`).
-/

namespace AnidbClient

namespace Turnstile

variable {State Job Stay Result : Type}

section Asked

variable (sv : Service State Job Stay Result) (l : Limits)

/-- Whoever is new in line has just asked. -/
def noteAsked (w : Turnstile State Job Stay Result) (e : Event Job) (asked : List Caller) :
    List Caller :=
  asked ++ (w.step sv l e).line.filter (· ∉ w.line)

/-- Everyone that got in line, in the order in which they did. -/
def asked (w : Turnstile State Job Stay Result) (events : List (Event Job)) : List Caller :=
  record sv l (noteAsked sv l) w [] events

theorem asked_concat (w : Turnstile State Job Stay Result) (events : List (Event Job))
    (e : Event Job) :
    asked sv l w (events ++ [e]) = noteAsked sv l (w.run sv l events) e (asked sv l w events) :=
  record_concat _ _ _ _ _

end Asked

section Moves

variable {sv : Service State Job Stay Result} {l : Limits}
  {w w' : Turnstile State Job Stay Result} {e : Event Job} {id : Caller}

/-- A newcomer gets in line behind the others, or somebody may leave the line. -/
theorem Move.line_cases (hm : Move sv l w e w') :
    w'.line.Sublist w.line ∨ ∃ id, w.stage id = none ∧ w'.line = w.line ++ [id] := by
  have hsettle : ∀ (p : Pace) (id : Caller) (turn : State × Turn Stay Result),
      ({ w with pace := p }.settle id turn).line.Sublist w.line := by
    intro p id turn
    obtain ⟨t, y | r⟩ := turn
    · exact List.Sublist.refl _
    · exact List.erase_sublist
  cases hm with
  | rest => exact .inl (List.Sublist.refl _)
  | tick => exact .inl (List.Sublist.refl _)
  | ask hnew => exact .inr ⟨_, hnew, rfl⟩
  | refuse => exact .inl (List.Sublist.refl _)
  | queue hnew => exact .inr ⟨_, hnew, rfl⟩
  | tell => exact .inl List.erase_sublist
  | pace => exact .inl (List.Sublist.refl _)
  | enter => exact .inl (hsettle _ _ _)
  | resume => exact .inl (hsettle w.pace _ _)
  | dropWaiting => exact .inl List.erase_sublist
  | dropPacing => exact .inl List.erase_sublist
  | dropInside => exact .inl List.erase_sublist

end Moves

/-! ## Served in order -/

/-- Those that were served, and those in line that were not, have asked in this order. -/
structure InOrder (w : Turnstile State Job Stay Result) (served asked : List Caller) : Prop where
  nodup : asked.Nodup
  known : ∀ id ∈ asked, w.stage id ≠ none
  order : (served ++ w.line.filter (· ∉ served)).Sublist asked

section InOrder

variable {sv : Service State Job Stay Result} {l : Limits}
  {w : Turnstile State Job Stay Result} {served asked : List Caller} {id : Caller}

theorem inOrder_opened (t : State) :
    InOrder (opened t : Turnstile State Job Stay Result) [] [] where
  nodup := List.nodup_nil
  known id hid := by cases hid
  order := List.Sublist.refl _

theorem InOrder.served_sublist (h : InOrder w served asked) : served.Sublist asked :=
  (List.sublist_append_left served _).trans h.order

theorem InOrder.step (h : InOrder w served asked) (hw : w.Orderly)
    (sv : Service State Job Stay Result) (l : Limits) (e : Event Job) :
    InOrder (w.step sv l e) served (noteAsked sv l w e asked) := by
  have hm := move_step sv l w e
  unfold noteAsked
  generalize w.step sv l e = w' at hm
  have hknown : ∀ k ∈ asked, w'.stage k ≠ none := fun k hk => hm.stage_ne_none (h.known k hk)
  rcases hm.line_cases with hsub | ⟨id, hnew, hline⟩
  · have hnobody : w'.line.filter (· ∉ w.line) = [] := by
      rw [List.filter_eq_nil_iff]
      intro k hk
      simpa using hsub.mem hk
    rw [hnobody, List.append_nil]
    exact ⟨h.nodup, hknown, ((hsub.filter _).append_left served).trans h.order⟩
  · have hfresh : id ∉ w.line := hw.not_mem_line hnew
    have hunasked : id ∉ asked := fun hid => h.known id hid hnew
    have hunserved : id ∉ served := fun hid => hunasked (h.served_sublist.mem hid)
    have hjoins : w'.line.filter (· ∉ w.line) = [id] := by
      rw [hline, List.filter_append, List.filter_eq_nil_iff.2 (by simp), List.nil_append]
      simp [hfresh]
    have hbehind : w'.line.filter (· ∉ served) = w.line.filter (· ∉ served) ++ [id] := by
      rw [hline, List.filter_append]
      simp [hunserved]
    have hcome : w'.stage id ≠ none := by
      have hmem : id ∈ w'.line := by simp [hline]
      intro hnone
      exact (hw.move hm).not_mem_line hnone hmem
    rw [hjoins]
    refine ⟨?_, ?_, ?_⟩
    · rw [← List.concat_eq_append]
      exact h.nodup.concat hunasked
    · intro k hk
      rcases List.mem_append.1 hk with hk | hk
      · exact hknown k hk
      · rw [List.mem_singleton] at hk
        exact hk ▸ hcome
    · rw [hbehind, ← List.append_assoc]
      exact h.order.append (List.Sublist.refl [id])

/-- The caller at the head of the line is the next one to be served. -/
theorem InOrder.serve (h : InOrder w served asked) (hhead : w.line.head? = some id)
    (hid : id ∉ served) : InOrder w (served ++ [id]) asked := by
  refine ⟨h.nodup, h.known, ?_⟩
  obtain ⟨rest, hline⟩ := List.head?_eq_some_iff.1 hhead
  have horder := h.order
  rw [hline, List.filter_cons_of_pos (by simpa using hid)] at horder
  have hbehind : (rest.filter (· ∉ served ++ [id])).Sublist (rest.filter (· ∉ served)) := by
    apply List.monotone_filter_right
    intro k hk
    simp only [List.mem_append, not_or, Bool.decide_and, Bool.and_eq_true] at hk
    exact hk.1
  rw [hline, List.filter_cons_of_neg (by simp), List.append_assoc]
  exact ((hbehind.cons_cons id).append_left served).trans horder

end InOrder

end Turnstile

end AnidbClient
