import AnidbClient.Proofs.Text.Numeral
import AnidbClient.Proofs.Text.Replace
import AnidbClient.Wire.Value

/-!
# Fields that stand for themselves

Some texts of a field stand for others, and what they stand for is in no numeral.  So a field is a
numeral as it is meant just if it is one as it is written (`isSigned_decode_iff`): no text of the
notation is read as a number, and no number as another one.
-/

namespace AnidbClient.Wire

/-- A character that may stand for something else in a field. -/
def isSpecial (c : Char) : Bool :=
  c == '/' || c == '&' || c == '<' || c == encodedQuote

/-- A field without such characters stands for itself. -/
theorem decode_eq_self {s : Text} (hs : ∀ c ∈ s, isSpecial c = false) : decode s = s := by
  have hnot : ∀ c, isSpecial c = true → c ∉ s := by
    intro c hc hmem
    rw [hs c hmem] at hc
    cases hc
  have hslash : s ≠ encodedSeparator := by
    rintro rfl
    exact hnot '/' (by decide) List.mem_cons_self
  have hquote : s.map (fun c => if c = encodedQuote then '\'' else c) = s.map id := by
    apply List.map_congr_left
    intro c hc
    refine if_neg ?_
    rintro rfl
    exact hnot encodedQuote (by decide) hc
  have hampersand : Text.replaceAll encodedAmpersand ['&'] s = s :=
    Text.replaceAll_eq_self _ (hnot '&' (by decide))
  have hnewline : Text.replaceAll encodedNewline ['\n'] s = s :=
    Text.replaceAll_eq_self _ (hnot '<' (by decide))
  unfold decode
  rw [if_neg hslash, hampersand, hnewline, hquote, List.map_id]

/-- A character that something in a field may stand for. -/
def isRestored (c : Char) : Bool :=
  c == fieldSeparator || c == '&' || c == '\n' || c == '\''

/-- A field that is meant without such characters was written as it is meant. -/
theorem eq_of_decode {s p : Text} (hdecode : decode s = p) (hp : ∀ c ∈ p, isRestored c = false) :
    s = p := by
  have hnot : ∀ c, isRestored c = true → c ∉ p := by
    intro c hc hmem
    rw [hp c hmem] at hc
    cases hc
  unfold decode at hdecode
  split at hdecode
  · exact absurd (hdecode ▸ List.mem_cons_self) (hnot fieldSeparator (by decide))
  · -- No exchange has left its mark, so each of them has found nothing to exchange.
    generalize hamp : Text.replaceAll encodedAmpersand ['&'] s = s' at hdecode
    generalize hnew : Text.replaceAll encodedNewline ['\n'] s' = s'' at hdecode
    have hquote : ∀ c ∈ s'', (if c = encodedQuote then '\'' else c) = c := by
      intro c hc
      refine if_neg ?_
      rintro rfl
      refine hnot '\'' (by decide) ?_
      rw [← hdecode]
      exact List.mem_map.2 ⟨encodedQuote, hc, if_pos rfl⟩
    rw [List.map_congr_left hquote, List.map_id'] at hdecode
    subst hdecode
    have hnewline : ¬ encodedNewline <:+: s' := fun hinside =>
      hnot '\n' (by decide) (hnew ▸ Text.mem_replaceAll _ (by decide) hinside List.mem_cons_self)
    rw [Text.replaceAll_of_not_inside _ hnewline] at hnew
    subst hnew
    have hampersand : ¬ encodedAmpersand <:+: s := fun hinside =>
      hnot '&' (by decide) (hamp ▸ Text.mem_replaceAll _ (by decide) hinside List.mem_cons_self)
    rwa [Text.replaceAll_of_not_inside _ hampersand] at hamp

/-! ## Numerals -/

variable {s : Text}

/-- What holds of plain texts only holds of a field as it is meant just if it does of the field as
it is written. -/
theorem decode_iff {P : Text → Prop} (hspecial : ∀ s, P s → ∀ c ∈ s, isSpecial c = false)
    (hrestored : ∀ s, P s → ∀ c ∈ s, isRestored c = false) : P (decode s) ↔ P s := by
  constructor
  · intro h
    have hsame : s = decode s := eq_of_decode rfl (hrestored _ h)
    rwa [← hsame] at h
  · intro h
    rwa [decode_eq_self (hspecial s h)]

theorem isSigned_decode_iff {i : Int} : Text.IsSigned i (decode s) ↔ Text.IsSigned i s :=
  decode_iff (fun _ h => h.eq_false (by decide) (by decide) (by decide))
    fun _ h => h.eq_false (by decide) (by decide) (by decide)

theorem isUnsigned_decode_iff {n : Nat} : Text.IsUnsigned n (decode s) ↔ Text.IsUnsigned n s :=
  decode_iff (fun _ h => h.isSigned.eq_false (by decide) (by decide) (by decide))
    fun _ h => h.isSigned.eq_false (by decide) (by decide) (by decide)

end AnidbClient.Wire
