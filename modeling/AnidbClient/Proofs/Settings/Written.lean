import AnidbClient.Proofs.Settings.Leaves

/-!
# Settings written and read again

`Tree.sift` takes keys and whole sections out of a tree.  What remains of written settings is read
as the settings that were written, where the settings that are gone have their defaults, and so has
the password, which is never written (`written_settings_return`).  Keys that no setting has may
stand anywhere in between.
-/

namespace AnidbClient.Settings

/-! ## Taking keys out -/

section Keys

variable {α β : Type} (key : Text)

theorem find?_filter (keep : Text → Bool) (es : List (Text × α)) :
    find? key (es.filter fun e => keep e.1) = if keep key then find? key es else none := by
  induction es with
  | nil => simp [find?]
  | cons e rest ih =>
    obtain ⟨k, a⟩ := e
    by_cases hk : k = key
    · subst hk
      cases hkeep : keep k with
      | true => simp [find?, hkeep]
      | false => simp [hkeep, ih]
    · cases hkeep : keep k <;> simp [find?, hkeep, hk, ih]

theorem find?_map (f : Text → α → β) (es : List (Text × α)) :
    find? key (es.map fun e => (e.1, f e.1 e.2)) = (find? key es).map (f key) := by
  induction es with
  | nil => rfl
  | cons e rest ih =>
    obtain ⟨k, a⟩ := e
    by_cases hk : k = key
    · subst hk
      simp [find?]
    · simp [find?, hk, ih]

end Keys

namespace Tree

/-- A table without the keys that go. -/
def prune (keep : Text → Bool) : Tree → Tree
  | table es => table (es.filter fun e => keep e.1)
  | t => t

/-- A tree without the sections that go, and without the keys that go from the other ones. -/
def sift (keep : List Text → Bool) : Tree → Tree
  | table es =>
    table ((es.filter fun e => keep [e.1]).map fun e =>
      (e.1, e.2.prune fun key => keep [e.1, key]))
  | t => t

theorem get?_prune (key : Text) (keep : Text → Bool) (t : Tree) :
    (t.prune keep).get? key = if keep key then t.get? key else none := by
  cases t with
  | table es => exact find?_filter key keep es
  | _ => simp [prune, get?]

theorem isTable_prune (keep : Text → Bool) (t : Tree) : (t.prune keep).isTable = t.isTable := by
  cases t <;> rfl

theorem get?_sift (table : Text) (keep : List Text → Bool) (t : Tree) :
    (t.sift keep).get? table =
      if keep [table] then (t.get? table).map (prune fun key => keep [table, key]) else none := by
  cases t with
  | table es =>
    show find? table (List.map _ (List.filter _ es)) = _
    rw [find?_map table fun k t => prune (fun key => keep [k, key]) t,
      find?_filter table fun k => keep [k]]
    by_cases hkeep : keep [table] = true
    · rw [if_pos hkeep, if_pos hkeep]
      rfl
    · rw [if_neg hkeep, if_neg hkeep]
      rfl
  | _ => simp [sift, get?]

/-- A setting stays if both its section and its key do. -/
theorem leaf?_sift (keep : List Text → Bool) (t : Tree) (leaf : Leaf) :
    (t.sift keep).leaf? leaf =
      if keep [leaf.table] && keep leaf.path then t.leaf? leaf else none := by
  unfold leaf?
  rw [get?_sift]
  cases hsection : keep [leaf.table] with
  | false => rfl
  | true =>
    cases hsub : t.get? leaf.table with
    | none => simp
    | some sub => exact get?_prune leaf.key _ sub

end Tree

/-! ## What is read again -/

/-- A section or a key that some setting has. -/
def isKnown (path : List Text) : Bool :=
  Leaf.all.any fun leaf => path == [leaf.table] || path == leaf.path

theorem isKnown_table (leaf : Leaf) : isKnown [leaf.table] = true := by
  cases leaf <;> decide

theorem isKnown_path (leaf : Leaf) : isKnown leaf.path = true := by
  cases leaf <;> decide

/-- The settings with those that are lost at their defaults, and the password too. -/
def reset (s : Settings) (lost : Leaf → Bool) : Settings :=
  Leaf.settings fun leaf => leaf.get (if leaf = .password ∨ lost leaf then default else s)

/-- A setting is lost with its section or with its key. -/
def Leaf.isLost (gone : List Text → Bool) (leaf : Leaf) : Bool :=
  gone [leaf.table] || gone leaf.path

/-- Taking keys out leaves a section a table. -/
theorem Tree.sectioned_sift (keep : List Text → Bool) {t : Tree} (h : t.Sectioned) :
    (t.sift keep).Sectioned := by
  intro leaf sub hsub
  rw [get?_sift] at hsub
  split at hsub
  next =>
    obtain ⟨sub', hsub', rfl⟩ := Option.map_eq_some_iff.1 hsub
    rw [isTable_prune]
    exact h leaf sub' hsub'
  next => cases hsub

/-- Keys that no setting has do not keep a section from being a table. -/
theorem Tree.sectioned_of_sift {t : Tree} (h : (t.sift isKnown).Sectioned) : t.Sectioned := by
  intro leaf sub hsub
  have hknown := get?_sift leaf.table isKnown t
  rw [if_pos (isKnown_table leaf), Option.mem_def.1 hsub] at hknown
  rw [← isTable_prune]
  exact h leaf _ hknown

theorem Tree.leaf?_sift_isKnown (t : Tree) (leaf : Leaf) :
    (t.sift isKnown).leaf? leaf = t.leaf? leaf := by
  rw [leaf?_sift, isKnown_table, isKnown_path]
  rfl

/-- Keys that no setting has are not read. -/
theorem ofTree?_sift_isKnown (surplus : Surplus) {t : Tree}
    (h : (t.sift isKnown).Sectioned) :
    ofTree? surplus (t.sift isKnown) = ofTree? surplus t := by
  cases t with
  | table es =>
    rw [ofTree?_eq_ofLeaves? surplus (Tree.sectioned_of_sift h),
      ← funext (Tree.leaf?_sift_isKnown (.table es))]
    exact ofTree?_eq_ofLeaves? surplus h
  | _ => rfl

theorem typed?_sift_toTree (s : Settings) (gone : List Text → Bool) (leaf : Leaf) :
    leaf.typed? ((s.toTree.sift fun path => !gone path).leaf? leaf) =
      some (leaf.get (s.reset (Leaf.isLost gone))) := by
  rw [Tree.leaf?_sift, ← Bool.not_or]
  unfold reset
  rw [Leaf.get_settings]
  show leaf.typed? (if (!leaf.isLost gone) = true then _ else none) = _
  cases hlost : leaf.isLost gone with
  | true =>
    rw [if_pos (Or.inr rfl)]
    rfl
  | false =>
    show leaf.typed? (s.toTree.leaf? leaf) = _
    rw [leaf?_toTree]
    by_cases hleaf : leaf = .password
    · subst hleaf
      rfl
    · rw [if_neg (by simp [hleaf]), Leaf.typed?_write? hleaf]

/-- Written settings are read again without what is gone and without the password, whatever other
keys stand with them; and no password changes what is written. -/
theorem written_settings_return (surplus : Surplus) (s : Settings) (gone : List Text → Bool) :
    ofTree? surplus (s.toTree.sift fun path => !gone path) =
        some (s.reset (Leaf.isLost gone)) ∧
      (∀ doc : Tree, doc.sift isKnown = s.toTree.sift (fun path => !gone path) →
        ofTree? surplus doc = some (s.reset (Leaf.isLost gone))) ∧
      ∀ p, ({ s with account := { s.account with password := p } } : Settings).toTree =
        s.toTree := by
  have hsectioned := Tree.sectioned_sift (fun path => !gone path) (sectioned_toTree s)
  have hread : ofTree? surplus (s.toTree.sift fun path => !gone path) =
      some (s.reset (Leaf.isLost gone)) := by
    show ofTree? surplus (.table _) = _
    rw [ofTree?_eq_ofLeaves? surplus hsectioned]
    exact ofLeaves?_eq_some (typed?_sift_toTree s gone)
  refine ⟨hread, fun doc hdoc => ?_, fun _ => rfl⟩
  rw [← hdoc] at hread hsectioned
  rw [← hread, ofTree?_sift_isKnown surplus hsectioned]

/-- Of an account with a password and three deleted sections the name of the user returns, also from
between other keys. -/
theorem username_returns :
    ofTree? .refused (.table [("theme", .null), ("credentials", .table
        [("colour", .text "red"), ("username", .text "someone")])]) =
      some { default with account := ⟨"someone", .none⟩ } :=
  (written_settings_return .refused { default with account := ⟨"someone", ⟨"secret"⟩⟩ }
    fun path => path ∈ ([["network"], ["client"], ["rate_limit"]] : List (List Text))).2.1
    (.table [("theme", .null), ("credentials", .table
        [("colour", .text "red"), ("username", .text "someone")])]) rfl

end AnidbClient.Settings
