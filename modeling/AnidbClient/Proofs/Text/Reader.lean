import AnidbClient.Text.Escape

/-!
# What readers take

Each reader is told by the texts of which it takes something: `bind_eq_some_iff` and
`orElse_eq_some_iff` for readers that are put together, and one lemma for each reader that looks at
the text itself.

A reader `Shortens` a text if it takes at least one character.  Whatever is read many times, and
shortens the text each time, brings no more things than characters were taken (`length_many`).
-/

namespace AnidbClient.Text.Reader

variable {α β : Type}

/-! ## Readers put together -/

theorem bind_eq_some_iff {r : Reader α} {f : α → Reader β} {s rest : Text} {b : β} :
    (r >>= f) s = some (b, rest) ↔ ∃ a mid, r s = some (a, mid) ∧ f a mid = some (b, rest) := by
  show (r s).bind (fun x => f x.1 x.2) = some (b, rest) ↔ _
  rw [Option.bind_eq_some_iff]
  constructor
  · rintro ⟨⟨a, mid⟩, hr, hf⟩
    exact ⟨a, mid, hr, hf⟩
  · rintro ⟨a, mid, hr, hf⟩
    exact ⟨(a, mid), hr, hf⟩

theorem pure_eq_some_iff {a b : α} {s rest : Text} :
    (pure a : Reader α) s = some (b, rest) ↔ a = b ∧ s = rest := by
  show some (a, s) = some (b, rest) ↔ _
  simp

theorem lift_eq_some_iff {o : Option α} {a : α} {s rest : Text} :
    (liftM o : Reader α) s = some (a, rest) ↔ o = some a ∧ s = rest := by
  show o.bind (fun a => some (a, s)) = some (a, rest) ↔ _
  cases o <;> simp

theorem orElse_eq_some_iff {q r : Reader α} {s rest : Text} {a : α} :
    (q <|> r) s = some (a, rest) ↔
      q s = some (a, rest) ∨ q s = none ∧ r s = some (a, rest) := by
  show (q s <|> r s) = some (a, rest) ↔ _
  cases q s <;> simp

theorem map_eq_some_iff {r : Reader α} {f : α → β} {s rest : Text} {b : β} :
    (f <$> r) s = some (b, rest) ↔ ∃ a, r s = some (a, rest) ∧ f a = b := by
  show (r s).bind (fun x => some (f x.1, x.2)) = some (b, rest) ↔ _
  rw [Option.bind_eq_some_iff]
  constructor
  · rintro ⟨⟨a, mid⟩, hr, hf⟩
    obtain ⟨rfl, rfl⟩ := Prod.mk.inj (Option.some.inj hf)
    exact ⟨a, hr, rfl⟩
  · rintro ⟨a, hr, rfl⟩
    exact ⟨(a, rest), hr, rfl⟩

theorem discard_eq_some_iff {r : Reader α} {s rest : Text} {u : Unit} :
    discard r s = some (u, rest) ↔ ∃ a, r s = some (a, rest) := by
  show (Function.const α PUnit.unit <$> r) s = some (u, rest) ↔ _
  simp [map_eq_some_iff]

/-! ## Readers that look at the text -/

theorem charWhere_eq_some_iff {p : Char → Bool} {s rest : Text} {c : Char} :
    charWhere p s = some (c, rest) ↔ s = c :: rest ∧ p c = true := by
  cases s with
  | nil => simp [charWhere]
  | cons d s =>
    show (if p d then some (d, s) else none) = some (c, rest) ↔ d :: s = c :: rest ∧ p c = true
    split
    · rename_i hd
      constructor
      · intro heq
        obtain ⟨rfl, rfl⟩ := Prod.mk.inj (Option.some.inj heq)
        exact ⟨rfl, hd⟩
      · rintro ⟨heq, -⟩
        obtain ⟨rfl, rfl⟩ := List.cons.inj heq
        rfl
    · rename_i hd
      refine ⟨nofun, ?_⟩
      rintro ⟨heq, hc⟩
      obtain ⟨rfl, rfl⟩ := List.cons.inj heq
      exact absurd hc hd

theorem char_eq_some_iff {c : Char} {s rest : Text} {u : Unit} :
    char c s = some (u, rest) ↔ s = c :: rest := by
  unfold char
  simp [discard_eq_some_iff, charWhere_eq_some_iff]

theorem literal_eq_some_iff {piece s rest : Text} {u : Unit} :
    literal piece s = some (u, rest) ↔ s = piece ++ rest := by
  unfold literal
  rw [← dropPrefix?_eq_some_iff]
  cases dropPrefix? piece s <;> simp

theorem span_eq_some_iff {p : Char → Bool} {s rest taken : Text} :
    span p s = some (taken, rest) ↔ s.takeWhile p = taken ∧ s.dropWhile p = rest := by
  unfold span
  simp

/-! ## Readers that take something -/

/-- The reader takes at least one character, whenever it takes anything. -/
def Shortens (r : Reader α) : Prop :=
  ∀ s a rest, r s = some (a, rest) → rest.length < s.length

theorem shortens_charWhere (p : Char → Bool) : Shortens (charWhere p) := by
  intro s c rest hread
  obtain ⟨rfl, -⟩ := charWhere_eq_some_iff.1 hread
  exact Nat.lt_succ_self _

theorem Shortens.orElse {q r : Reader α} (hq : Shortens q) (hr : Shortens r) :
    Shortens (q <|> r) := by
  intro s a rest hread
  rcases orElse_eq_some_iff.1 hread with hread | ⟨-, hread⟩
  · exact hq s a rest hread
  · exact hr s a rest hread

theorem length_hexNumber {acc width n : Nat} {s rest : Text}
    (hread : hexNumber acc width s = some (n, rest)) : rest.length ≤ s.length := by
  induction width generalizing acc s with
  | zero =>
    obtain ⟨-, rfl⟩ := pure_eq_some_iff.1 hread
    exact Nat.le_refl _
  | succ width ih =>
    cases s with
    | nil => cases hread
    | cons c s =>
      obtain ⟨d, -, hread⟩ := Option.bind_eq_some_iff.1 hread
      exact Nat.le_succ_of_le (ih hread)

theorem length_numbered {width : Nat} {c : Char} {s rest : Text}
    (hread : numbered width s = some (c, rest)) : rest.length ≤ s.length := by
  obtain ⟨n, mid, hdigits, hnumber⟩ := bind_eq_some_iff.1 hread
  obtain ⟨-, rfl⟩ := lift_eq_some_iff.1 hnumber
  exact length_hexNumber hdigits

theorem length_escapeBody {c : Char} {s rest : Text} (hread : escapeBody s = some (c, rest)) :
    rest.length ≤ s.length := by
  unfold escapeBody at hread
  split at hread
  case h_8 => exact Nat.le_succ_of_le (length_numbered hread)
  case h_9 => exact Nat.le_succ_of_le (length_numbered hread)
  case h_10 => cases hread
  all_goals
    obtain ⟨-, rfl⟩ := Prod.mk.inj (Option.some.inj hread)
    exact Nat.le_succ _

theorem shortens_escape : Shortens escape := by
  intro s c rest hread
  obtain ⟨u, mid, hslash, hbody⟩ := bind_eq_some_iff.1 hread
  obtain rfl := char_eq_some_iff.1 hslash
  exact Nat.lt_succ_of_le (length_escapeBody hbody)

/-- What is read up to so many times brings no more things than characters were taken. -/
theorem length_upTo {r : Reader α} (hr : Shortens r) {n : Nat} {s rest : Text} {as : List α}
    (hread : upTo r n s = some (as, rest)) : as.length + rest.length ≤ s.length := by
  induction n generalizing s as with
  | zero =>
    obtain ⟨rfl, rfl⟩ := pure_eq_some_iff.1 hread
    simp
  | succ n ih =>
    unfold upTo at hread
    split at hread
    · obtain ⟨rfl, rfl⟩ := Prod.mk.inj (Option.some.inj hread)
      simp
    · rename_i a mid hfirst
      obtain ⟨⟨bs, rest'⟩, hrest, heq⟩ := Option.map_eq_some_iff.1 hread
      obtain ⟨rfl, rfl⟩ := Prod.mk.inj heq
      have hshort := hr s a mid hfirst
      have hmore := ih hrest
      rw [List.length_cons]
      omega

theorem length_many {r : Reader α} (hr : Shortens r) {s rest : Text} {as : List α}
    (hread : many r s = some (as, rest)) : as.length + rest.length ≤ s.length :=
  length_upTo hr hread

end AnidbClient.Text.Reader
