import AnidbClient.Proofs.Text.Pieces
import Mathlib.Data.List.TakeWhile

/-!
# Padded texts

A text without blanks is found again between any blanks around it (`IsPadded.trim_eq`), and what
`trim` takes off are blanks (`isPadded_trim`).  So a property of trimmed lines is one of what stands
between the blanks, if it holds of texts without blanks only (`trim_iff`).
-/

namespace AnidbClient.Text

/-- The line holds the text between blanks. -/
def IsPadded (s line : Text) : Prop :=
  ∃ front back, line = front ++ (s ++ back) ∧ (∀ c ∈ front, isBlank c = true) ∧
    ∀ c ∈ back, isBlank c = true

/-- What is taken off the ends of a line are blanks. -/
theorem isPadded_trim (line : Text) : IsPadded (trim line) line := by
  refine ⟨line.takeWhile isBlank,
    ((line.dropWhile isBlank).reverse.takeWhile isBlank).reverse, ?_, ?_, ?_⟩
  · unfold trim trimRightWhen
    rw [← List.reverse_append, List.takeWhile_append_dropWhile, List.reverse_reverse,
      List.takeWhile_append_dropWhile]
  · intro c hc
    exact List.mem_takeWhile_imp hc
  · intro c hc
    exact List.mem_takeWhile_imp (List.mem_reverse.1 hc)

theorem trimRightWhen_append_of_all {p : Char → Bool} {back : Text} (hback : ∀ c ∈ back, p c = true)
    (s : Text) : trimRightWhen p (s ++ back) = trimRightWhen p s := by
  unfold trimRightWhen
  rw [List.reverse_append, List.dropWhile_append_of_pos fun c hc => hback c (List.mem_reverse.1 hc)]

/-- A text without blanks is found between them. -/
theorem IsPadded.trim_eq {s line : Text} (h : IsPadded s line) (hs : ∀ c ∈ s, isBlank c = false) :
    trim line = s := by
  obtain ⟨front, back, rfl, hfront, hback⟩ := h
  have htrim : trim (s ++ back) = s := by
    cases s with
    | nil =>
      have hnone : back.dropWhile isBlank = [] := List.dropWhile_eq_nil_iff.2 hback
      unfold trim
      rw [List.nil_append, hnone]
      rfl
    | cons c s =>
      have hstart := hs c List.mem_cons_self
      unfold trim
      rw [List.cons_append, List.dropWhile_cons_of_neg (by simp [hstart]), ← List.cons_append,
        trimRightWhen_append_of_all hback, trimRightWhen_eq_self hs]
  unfold trim at htrim ⊢
  rw [List.dropWhile_append_of_pos hfront, htrim]

theorem trim_iff {P : Text → Prop} (hP : ∀ s, P s → ∀ c ∈ s, isBlank c = false) {line : Text} :
    P (trim line) ↔ ∃ s, IsPadded s line ∧ P s := by
  constructor
  · intro h
    exact ⟨trim line, isPadded_trim line, h⟩
  · rintro ⟨s, hpadded, h⟩
    rwa [hpadded.trim_eq (hP s h)]

end AnidbClient.Text
