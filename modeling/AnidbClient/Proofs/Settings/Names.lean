import AnidbClient.Proofs.Settings.Leaves
import AnidbClient.Proofs.Text.Pieces
import AnidbClient.Proofs.Text.Replace
import AnidbClient.Settings.Variable

/-!
# The names of variables

The name of a variable may be in any case (`path?_map_lower`): capital letters are neither blanks
nor do they stand between keys, so taking a name apart and putting it in lower case can be
exchanged.  So every way of writing the name of a setting addresses that setting
(`Variable.Names.path?_eq`), and no other one.
-/

namespace AnidbClient.Settings

namespace Variable

/-! ## Letters in lower case -/

/-- Only capital letters change, and they become small ones. -/
theorem lower_cases (c : Char) :
    lower c = c ∨
      (65 ≤ c.toNat ∧ c.toNat ≤ 90) ∧ 97 ≤ (lower c).toNat ∧ (lower c).toNat ≤ 122 := by
  unfold lower
  split
  next h =>
    have hlow : 65 ≤ c.toNat := h.1
    have hhigh : c.toNat ≤ 90 := h.2
    have hvalid : (c.toNat + 32).isValidChar := Or.inl (by omega)
    have hnat : (Char.ofNat (c.toNat + 32)).toNat = c.toNat + 32 := by
      rw [Char.ofNat, dif_pos hvalid]
      rfl
    omega
  next => exact Or.inl rfl

theorem lower_lower (c : Char) : lower (lower c) = lower c := by
  rcases lower_cases c with hc | ⟨_, hlow, hhigh⟩
  · rw [hc, hc]
  · have hsmall : ¬ ('A' ≤ lower c ∧ lower c ≤ 'Z') := by
      rintro ⟨_, hcapital⟩
      have hbound : (lower c).toNat ≤ 90 := hcapital
      omega
    exact if_neg hsmall

theorem isBlank_lower (c : Char) : Text.isBlank (lower c) = Text.isBlank c := by
  rcases lower_cases c with hc | ⟨⟨hlow, hhigh⟩, hlow', hhigh'⟩
  · rw [hc]
  · have hblank : ∀ d : Char, 65 ≤ d.toNat → d.toNat ≤ 122 → Text.isBlank d = false := by
      intro d hd hd'
      unfold Text.isBlank
      simp only [Bool.or_eq_false_iff, Bool.and_eq_false_iff, decide_eq_false_iff_not,
        beq_eq_false_iff_ne]
      omega
    rw [hblank c hlow (by omega), hblank (lower c) (by omega) hhigh']

/-- A character that is no letter comes from itself only. -/
theorem lower_eq_iff {d : Char} (hcapital : ¬ (65 ≤ d.toNat ∧ d.toNat ≤ 90))
    (hsmall : ¬ (97 ≤ d.toNat ∧ d.toNat ≤ 122)) (c : Char) : lower c = d ↔ c = d := by
  rcases lower_cases c with hc | ⟨hletter, hlower⟩
  · rw [hc]
  · constructor
    · rintro rfl
      exact absurd hlower hsmall
    · rintro rfl
      exact absurd hletter hcapital

theorem map_lower_lower (s : Text) : (s.map lower).map lower = s.map lower := by
  rw [List.map_map]
  exact congrArg (s.map ·) (funext lower_lower)

/-! ## Names in any case -/

theorem dropMark?_map_lower (name : Text) :
    dropMark? (name.map lower) = (dropMark? name).map (List.map lower) := by
  unfold dropMark?
  rw [← List.map_take, map_lower_lower, ← List.map_drop]
  split <;> rfl

theorem pathOf?_map_lower (rest : Text) : pathOf? (rest.map lower) = pathOf? rest := by
  have hunder : ∀ d ∈ "__".toList, ∀ c, lower c = d ↔ c = d := by
    intro d hd
    have hd' : d = '_' := by simpa using hd
    subst hd'
    exact lower_eq_iff (by decide) (by decide)
  have hpoint : (· == '.') ∘ lower = (· == '.') := by
    funext c
    rw [Function.comp_apply, Bool.eq_iff_iff, beq_iff_eq, beq_iff_eq]
    exact lower_eq_iff (by decide) (by decide) c
  have hkeys : Text.split '.' (Text.trim (Text.replaceAll "__" "." (rest.map lower))) =
      (Text.split '.' (Text.trim (Text.replaceAll "__" "." rest))).map (List.map lower) := by
    unfold Text.replaceAll Text.split
    rw [Text.replaceFrom_map hunder rfl, Text.trim_map isBlank_lower, Text.splitWhen_map, hpoint]
  have hempty : (fun key : Text => key.isEmpty) ∘ List.map lower = fun key => key.isEmpty := by
    funext key
    cases key <;> rfl
  have hlower : List.map lower ∘ List.map lower = List.map lower := funext map_lower_lower
  unfold pathOf?
  simp only [hkeys, List.any_map, List.map_map, hempty, hlower]

/-- The case of a name does not matter. -/
theorem path?_map_lower (v : Variable) : path? ⟨v.name.map lower, v.content⟩ = v.path? := by
  unfold path?
  rw [Text.trim_map isBlank_lower, dropMark?_map_lower]
  cases dropMark? (Text.trim v.name) with
  | none => rfl
  | some rest => exact pathOf?_map_lower rest

end Variable

/-! ## The variables of settings -/

/-- The variable that sets a setting. -/
def Leaf.variableName (leaf : Leaf) : Text :=
  Variable.mark ++ leaf.table ++ "__" ++ leaf.key

theorem Leaf.path_injective {leaf leaf' : Leaf} (h : leaf.path = leaf'.path) : leaf = leaf' := by
  have hfind : ∀ leaf : Leaf, all.find? (·.path == leaf.path) = some leaf := by
    intro leaf
    cases leaf <;> decide
  apply Option.some.inj
  rw [← hfind leaf, ← hfind leaf', h]

/-- The variable bears the name of a setting, in any case. -/
def Variable.Names (v : Variable) (leaf : Leaf) : Prop :=
  v.name.map lower = leaf.variableName.map lower

instance (v : Variable) (leaf : Leaf) : Decidable (v.Names leaf) :=
  inferInstanceAs (Decidable (_ = _))

namespace Variable.Names

variable {v : Variable} {leaf leaf' : Leaf}

theorem path?_eq (h : v.Names leaf) : v.path? = some leaf.path := by
  have hall : ∀ leaf ∈ Leaf.all,
      path? ⟨leaf.variableName.map lower, []⟩ = some leaf.path := by
    decide +kernel
  rw [← path?_map_lower, show v.name.map lower = _ from h]
  exact hall leaf leaf.mem_all

/-- What sets a setting sets no other one. -/
theorem eq (h : v.Names leaf) (h' : v.Names leaf') : leaf = leaf' := by
  apply Leaf.path_injective
  apply Option.some.inj
  rw [← h.path?_eq, ← h'.path?_eq]

theorem tree?_eq (h : v.Names leaf) : v.tree? = some (.nest leaf.path (read v.content)) := by
  unfold tree?
  rw [h.path?_eq]
  rfl

end Variable.Names

end AnidbClient.Settings
