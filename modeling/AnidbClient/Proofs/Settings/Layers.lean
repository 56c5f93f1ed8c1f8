import AnidbClient.Proofs.Settings.Names
import AnidbClient.Settings.Load
import Mathlib.Data.List.Induction
import Mathlib.Data.List.Pairwise

/-!
# Which layer counts

The layers are laid over each other as trees, but what is loaded depends on one value for each
setting: that of its environment variable, or else the one in the settings file, or else the
default.  `load_by_leaves` says so, and that the type of a value matters only where it counts.

Laying trees over each other reaches each leaf on its own (`Tree.leaf?_merge`), as long as sections
are tables; the environment holds for each setting what its variable does
(`Environment.leaves_toTree`).
-/

namespace AnidbClient.Settings

/-! ## Leaves of layers -/

namespace Tree

/-- What a leaf is after a later layer was laid over an earlier one. -/
def laid : Option Tree → Option Tree → Option Tree
  | some earlier, some later => some (merge earlier later)
  | some earlier, none => some earlier
  | none, later => later

theorem get?_merge {t u : Tree} (ht : t.isTable = true) (hu : u.isTable = true) (key : Text) :
    (merge t u).get? key = laid (t.get? key) (u.get? key) := by
  cases t with
  | table earlier =>
    cases u with
    | table later =>
      rw [find?_merge]
      rfl
    | _ => cases hu
  | _ => cases ht

theorem isTable_merge {t u : Tree} (hu : u.isTable = true) : (merge t u).isTable = true := by
  cases u with
  | table later => cases t <;> rfl
  | _ => cases hu

section Merge

variable {t u : Tree} (ht : t.isTable = true) (hu : u.isTable = true) (hts : t.Sectioned)
  (hus : u.Sectioned)
include ht hu hts hus

theorem sectioned_merge : (merge t u).Sectioned := by
  intro leaf sub hsub
  rw [get?_merge ht hu] at hsub
  cases hearlier : t.get? leaf.table with
  | none =>
    rw [hearlier] at hsub
    exact hus leaf sub hsub
  | some earlier =>
    cases hlater : u.get? leaf.table with
    | none =>
      rw [hearlier, hlater] at hsub
      cases hsub
      exact hts leaf sub hearlier
    | some later =>
      rw [hearlier, hlater] at hsub
      cases hsub
      exact isTable_merge (hus leaf later hlater)

/-- Each leaf is looked at on its own. -/
theorem leaf?_merge (leaf : Leaf) :
    (merge t u).leaf? leaf = laid (t.leaf? leaf) (u.leaf? leaf) := by
  unfold leaf?
  rw [get?_merge ht hu]
  cases hearlier : t.get? leaf.table with
  | none => rfl
  | some earlier =>
    cases hlater : u.get? leaf.table with
    | none =>
      show earlier.get? leaf.key = laid (earlier.get? leaf.key) none
      cases earlier.get? leaf.key <;> rfl
    | some later => exact get?_merge (hts leaf earlier hearlier) (hus leaf later hlater) leaf.key

end Merge

theorem get?_nest (leaf : Leaf) (t : Tree) (table : Text) :
    (nest leaf.path t).get? table =
      if leaf.table = table then some (.table [(leaf.key, t)]) else none := rfl

theorem sectioned_nest (leaf : Leaf) (t : Tree) : (nest leaf.path t).Sectioned := by
  intro leaf' sub hsub
  rw [get?_nest] at hsub
  split at hsub
  next =>
    cases hsub
    rfl
  next => cases hsub

theorem leaf?_nest (leaf leaf' : Leaf) (t : Tree) :
    (nest leaf.path t).leaf? leaf' = if leaf = leaf' then some t else none := by
  unfold leaf?
  rw [get?_nest]
  by_cases hleaf : leaf = leaf'
  · subst hleaf
    rw [if_pos rfl, if_pos rfl]
    exact if_pos rfl
  · rw [if_neg hleaf]
    by_cases htable : leaf.table = leaf'.table
    · have hkey : leaf.key ≠ leaf'.key := by
        intro hkey
        apply hleaf
        apply Leaf.path_injective
        rw [Leaf.path, htable, hkey, Leaf.path]
      rw [if_pos htable]
      exact if_neg hkey
    · rw [if_neg htable]
      rfl

end Tree

namespace Leaf

/-- No setting is a table, so of two values laid over each other the later one is read. -/
theorem read?_merge (leaf : Leaf) (earlier later : Tree) :
    leaf.read? (Tree.merge earlier later) = leaf.read? later := by
  cases earlier with
  | table =>
    cases later with
    | table => cases leaf <;> rfl
    | _ => rfl
  | _ => rfl

theorem typed?_laid (leaf : Leaf) (earlier later : Option Tree) :
    leaf.typed? (Tree.laid earlier later) = leaf.typed? (later.or earlier) := by
  cases earlier with
  | none => cases later <;> rfl
  | some earlier =>
    cases later with
    | none => rfl
    | some later => exact leaf.read?_merge earlier later

theorem typed?_default (leaf : Leaf) :
    leaf.typed? (Settings.default.toTree.leaf? leaf) = leaf.typed? none := by
  by_cases hleaf : leaf = .password
  · subst hleaf
    rfl
  · rw [leaf?_toTree, typed?_write? hleaf]
    rfl

end Leaf

/-! ## The environment -/

/-- Two variables do not set the same setting. -/
def Variable.Apart (v w : Variable) : Prop :=
  ∀ leaf, v.Names leaf → ¬ w.Names leaf

theorem Variable.Apart.symm {v w : Variable} (h : v.Apart w) : w.Apart v :=
  fun leaf hw hv => h leaf hv hw

instance : Std.Symm Variable.Apart :=
  ⟨fun _ _ => Variable.Apart.symm⟩

namespace Environment

/-- Each variable sets a setting, and no two of them the same. -/
structure SetsLeaves (env : Environment) : Prop where
  named : ∀ v ∈ env, ∃ leaf, v.Names leaf
  apart : env.Pairwise Variable.Apart

/-- What the environment holds for a setting. -/
def value? (env : Environment) (leaf : Leaf) : Option Tree :=
  (env.find? fun v => v.Names leaf).map fun v => Variable.read v.content

variable {env env' : Environment} {v : Variable} {leaf : Leaf}

theorem toTree_concat (env : Environment) (h : v.Names leaf) :
    toTree (env ++ [v]) = env.toTree.merge (.nest leaf.path (Variable.read v.content)) := by
  unfold toTree
  rw [List.filterMap_append, List.filterMap_cons_some h.tree?_eq, List.filterMap_nil,
    List.foldl_append]
  rfl

theorem value?_eq_none (h : ∀ w ∈ env, ¬ w.Names leaf) : env.value? leaf = none := by
  unfold value?
  rw [List.find?_eq_none.2 (by simpa using h)]
  rfl

theorem value?_concat_of_names (henv : ∀ w ∈ env, ¬ w.Names leaf) (h : v.Names leaf) :
    value? (env ++ [v]) leaf = some (Variable.read v.content) := by
  unfold value?
  rw [List.find?_append, List.find?_eq_none.2 (by simpa using henv),
    List.find?_cons_of_pos (by simpa using h)]
  rfl

theorem value?_concat_of_not_names (h : ¬ v.Names leaf) :
    value? (env ++ [v]) leaf = env.value? leaf := by
  unfold value?
  rw [List.find?_append, List.find?_cons_of_neg (by simpa using h), List.find?_nil, Option.or_none]

/-- The environment is a table of sections, and holds for each setting what its variable does. -/
theorem leaves_toTree (h : env.SetsLeaves) :
    env.toTree.isTable = true ∧ env.toTree.Sectioned ∧
      ∀ leaf, env.toTree.leaf? leaf = env.value? leaf := by
  induction env using List.reverseRecOn with
  | nil =>
    refine ⟨rfl, fun leaf sub hsub => ?_, fun leaf => rfl⟩
    cases hsub
  | append_singleton env v ih =>
    obtain ⟨henv, hlast, hapart⟩ := List.pairwise_append.1 h.apart
    obtain ⟨leaf, hv⟩ := h.named v (List.mem_append_right env List.mem_cons_self)
    obtain ⟨htable, hsectioned, hleaves⟩ :=
      ih ⟨fun w hw => h.named w (List.mem_append_left _ hw), henv⟩
    have hnew : ∀ w ∈ env, ¬ w.Names leaf :=
      fun w hw hnames => hapart w hw v List.mem_cons_self leaf hnames hv
    have hnest := Tree.sectioned_nest leaf (Variable.read v.content)
    rw [toTree_concat env hv]
    refine ⟨Tree.isTable_merge rfl, Tree.sectioned_merge htable rfl hsectioned hnest,
      fun leaf' => ?_⟩
    rw [Tree.leaf?_merge htable rfl hsectioned hnest, hleaves, Tree.leaf?_nest]
    by_cases hleaf : leaf = leaf'
    · subst hleaf
      rw [if_pos rfl, value?_eq_none hnew, value?_concat_of_names hnew hv]
      rfl
    · have hother : ¬ v.Names leaf' := fun hnames => hleaf (hv.eq hnames)
      rw [if_neg hleaf, value?_concat_of_not_names hother]
      cases value? env leaf' <;> rfl

/-- The variable of a setting gives its value. -/
theorem value?_of_mem (h : env.SetsLeaves) (hv : v ∈ env) (hnames : v.Names leaf) :
    env.value? leaf = some (Variable.read v.content) := by
  have hfind : env.find? (fun w => w.Names leaf) = some v := by
    cases hw : env.find? (fun w => w.Names leaf) with
    | none => exact absurd hnames (by simpa using List.find?_eq_none.1 hw v hv)
    | some w =>
      have hwnames : w.Names leaf := by simpa using List.find?_some hw
      by_cases hwv : w = v
      · rw [hwv]
      · have hapart := h.apart.forall (List.mem_of_find?_eq_some hw) hv hwv
        exact absurd hnames (hapart leaf hwnames)
  unfold value?
  rw [hfind]
  rfl

theorem SetsLeaves.perm (h : env.SetsLeaves) (hperm : env'.Perm env) : env'.SetsLeaves where
  named v hv := h.named v (hperm.subset hv)
  apart := (hperm.pairwise_iff Variable.Apart.symm).2 h.apart

/-- The order of the variables does not matter. -/
theorem value?_perm (h : env.SetsLeaves) (hperm : env'.Perm env) (leaf : Leaf) :
    env'.value? leaf = env.value? leaf := by
  by_cases hnamed : ∃ v ∈ env, v.Names leaf
  · obtain ⟨v, hv, hnames⟩ := hnamed
    rw [value?_of_mem h hv hnames, value?_of_mem (h.perm hperm) (hperm.symm.subset hv) hnames]
  · have hnone : ∀ v ∈ env, ¬ v.Names leaf := fun v hv hnames => hnamed ⟨v, hv, hnames⟩
    rw [value?_eq_none hnone, value?_eq_none fun v hv => hnone v (hperm.subset hv)]

end Environment

/-! ## Checking -/

/-- What is wrong with settings, if anything is: the first of the rules that does not hold. -/
def fault? (s : Settings) : Option SettingsError :=
  if s.spacing.shortDelayMs < 2000 then
    some (.refused "rate_limit.short_delay_ms" "must be at least 2000")
  else if s.spacing.longDelayMs < s.spacing.shortDelayMs then
    some (.refused "rate_limit.long_delay_ms" "must not be below short_delay_ms")
  else if s.endpoint.port = 0 then some (.refused "network.port" "must not be 0")
  else if s.endpoint.requestTimeoutSecs = 0 then
    some (.refused "network.request_timeout_secs" "must not be 0")
  else if s.registration.name.all Text.isBlank then
    some (.refused "client.name" "must not be empty")
  else none

theorem check_eq_fault? (s : Settings) : s.check = (fault? s).elim (.ok ()) .error := by
  have hfloor : (!decide (Protocol.shortDelayFloor ≤ s.spacing.shortDelayMs)) =
      decide (s.spacing.shortDelayMs < 2000) := by
    rw [← decide_not]
    exact decide_eq_decide.2 UInt64.not_le
  have horder : (!decide (s.spacing.shortDelayMs ≤ s.spacing.longDelayMs)) =
      decide (s.spacing.longDelayMs < s.spacing.shortDelayMs) := by
    rw [← decide_not]
    exact decide_eq_decide.2 UInt64.not_le
  have hblank : decide (Text.trim s.registration.name = []) =
      s.registration.name.all Text.isBlank := by
    rw [Bool.eq_iff_iff, List.all_eq_true, ← Text.trim_eq_nil_iff, decide_eq_true_iff]
  have hdemand : "must be at least ".toList ++ Text.digits Protocol.shortDelayFloor.toNat =
      "must be at least 2000".toList := by
    decide +kernel
  unfold check fault? rules
  simp only [List.find?_cons, hdemand, hfloor, horder, hblank, ne_eq, decide_not, Bool.not_not]
  split_ifs with hshort hlong hport htimeout hname
  · rw [decide_eq_true hshort]
    rfl
  · rw [decide_eq_false hshort, decide_eq_true hlong]
    rfl
  · rw [decide_eq_false hshort, decide_eq_false hlong, decide_eq_true hport]
    rfl
  · rw [decide_eq_false hshort, decide_eq_false hlong, decide_eq_false hport,
      decide_eq_true htimeout]
    rfl
  · rw [decide_eq_false hshort, decide_eq_false hlong, decide_eq_false hport,
      decide_eq_false htimeout, hname]
    rfl
  · rw [decide_eq_false hshort, decide_eq_false hlong, decide_eq_false hport,
      decide_eq_false htimeout, Bool.eq_false_iff.2 hname]
    rfl

/-! ## Loading -/

/-- The table of a settings file; an empty one where there is no file. -/
def fileTree? (file : Option Text) : Option Tree :=
  file.elim (some .empty) Toml.Document.read?

theorem isTable_of_fileTree? {file : Option Text} {tree : Tree} (h : fileTree? file = some tree) :
    tree.isTable = true := by
  cases file with
  | none =>
    cases h
    rfl
  | some s =>
    obtain ⟨ls, _, hdocument⟩ := Option.bind_eq_some_iff.1 h
    obtain ⟨d, _, hentries⟩ := Option.bind_eq_some_iff.1 hdocument
    obtain ⟨es, _, htree⟩ := Option.bind_eq_some_iff.1 hentries
    cases htree
    rfl

theorem load_eq_ofLayers {file : Option Text} {tree : Tree} (h : fileTree? file = some tree)
    (env : Environment) : load file env = ofLayers (some tree) env := by
  cases file with
  | none =>
    cases h
    rfl
  | some s =>
    have hread : Toml.Document.read? s = some tree := h
    simp only [load, hread]

/-- What counts for each setting: the environment if it sets it, and else the settings file. -/
def winner (tree : Tree) (env : Environment) (leaf : Leaf) : Option Tree :=
  (env.value? leaf).or (tree.leaf? leaf)

/-- Of the layers each leaf is typed as the one that counts. -/
theorem typed?_layered {tree : Tree} {env : Environment} (htable : tree.isTable = true)
    (hsectioned : tree.Sectioned) (henv : env.SetsLeaves) (leaf : Leaf) :
    leaf.typed? ((layered (some tree) env).leaf? leaf) = leaf.typed? (winner tree env leaf) := by
  obtain ⟨hvariables, hvariables', hvalues⟩ := Environment.leaves_toTree henv
  have hlower : (default.toTree.merge tree).Sectioned :=
    Tree.sectioned_merge rfl htable (sectioned_toTree default) hsectioned
  have hleaf : (layered (some tree) env).leaf? leaf =
      Tree.laid (Tree.laid (default.toTree.leaf? leaf) (tree.leaf? leaf)) (env.value? leaf) := by
    show ((default.toTree.merge tree).merge env.toTree).leaf? leaf = _
    rw [Tree.leaf?_merge (Tree.isTable_merge htable) hvariables hlower hvariables', hvalues,
      Tree.leaf?_merge rfl htable (sectioned_toTree default) hsectioned]
  rw [hleaf, Leaf.typed?_laid]
  unfold winner
  cases env.value? leaf with
  | some t => rfl
  | none =>
    show leaf.typed? (Tree.laid _ _) = leaf.typed? (tree.leaf? leaf)
    rw [Leaf.typed?_laid]
    cases tree.leaf? leaf with
    | some t => rfl
    | none => exact leaf.typed?_default

/-- The settings of the layers are read from what counts for each of them. -/
theorem ofTree?_layers {tree : Tree} {env : Environment} (htable : tree.isTable = true)
    (hsectioned : tree.Sectioned) (henv : env.SetsLeaves) :
    ofTree? .ignored (layered (some tree) env) = ofLeaves? (winner tree env) := by
  obtain ⟨hvariables, hvariables', -⟩ := Environment.leaves_toTree henv
  have hlower : (default.toTree.merge tree).Sectioned :=
    Tree.sectioned_merge rfl htable (sectioned_toTree default) hsectioned
  have hlayered : (layered (some tree) env).Sectioned :=
    Tree.sectioned_merge (Tree.isTable_merge htable) hvariables hlower hvariables'
  have hroot : (layered (some tree) env).isTable = true := Tree.isTable_merge hvariables
  rw [← ofLeaves?_congr (typed?_layered htable hsectioned henv)]
  cases hes : layered (some tree) env with
  | table es => exact ofTree?_eq_ofLeaves? .ignored (hes ▸ hlayered)
  | _ => cases hes ▸ hroot

/-- A settings file with sections that are tables, and variables that set settings. -/
structure Sources (file : Option Text) (tree : Tree) (env : Environment) : Prop where
  reads : fileTree? file = some tree
  sectioned : tree.Sectioned
  sets : env.SetsLeaves

theorem Sources.load_eq {file : Option Text} {tree : Tree} {env : Environment}
    (h : Sources file tree env) :
    load file env =
      match ofLeaves? (winner tree env) with
      | none => .error .unreadable
      | some s => (fault? s).elim (.ok s) .error := by
  rw [load_eq_ofLayers h.reads]
  unfold ofLayers
  rw [ofTree?_layers (isTable_of_fileTree? h.reads) h.sectioned h.sets]
  cases ofLeaves? (winner tree env) with
  | none => rfl
  | some s =>
    show s.check.map (fun () => s) = (fault? s).elim (.ok s) .error
    rw [check_eq_fault?]
    cases fault? s <;> rfl

/-- Settings that were loaded keep all rules. -/
theorem check_of_load {file : Option Text} {env : Environment} {s : Settings}
    (h : load file env = .ok s) : s.check = .ok () := by
  cases hfile : fileTree? file with
  | some tree =>
    rw [load_eq_ofLayers hfile] at h
    exact check_of_ofLayers h
  | none =>
    cases file with
    | none => cases hfile
    | some text =>
      have hread : Toml.Document.read? text = none := hfile
      simp only [load, hread] at h
      cases h

/-- What is loaded is read from the value that counts for each setting, and kept if no rule is
broken.  What does not count, keys that no setting has and the order of the variables have no
effect, and settings are never loaded that break a rule. -/
theorem load_by_leaves {file : Option Text} {tree : Tree} {env : Environment}
    (h : Sources file tree env) :
    (load file env =
        match ofLeaves? (winner tree env) with
        | none => .error .unreadable
        | some s => (fault? s).elim (.ok s) .error) ∧
      (∀ file' tree' env', Sources file' tree' env' →
        (∀ leaf, winner tree' env' leaf = winner tree env leaf) →
          load file' env' = load file env) ∧
      (∀ env', env'.Perm env → load file env' = load file env) ∧
      ∀ file env s, load file env = .ok s → s.check = .ok () := by
  have hsame : ∀ file' tree' env', Sources file' tree' env' →
      (∀ leaf, winner tree' env' leaf = winner tree env leaf) →
        load file' env' = load file env := by
    intro file' tree' env' h' hwinner
    rw [h'.load_eq, h.load_eq, funext hwinner]
  refine ⟨h.load_eq, hsame, fun env' hperm => ?_, fun _ _ _ => check_of_load⟩
  refine hsame file tree env' ⟨h.reads, h.sectioned, h.sets.perm hperm⟩ fun leaf => ?_
  unfold winner
  rw [Environment.value?_perm h.sets hperm]

/-- A name that is no text does no harm where the environment has a better one. -/
theorem name_overridden :
    load (some "[client]\nname = 1\nversion = 2\n") [⟨"anidb_Client__NAME", "me"⟩] =
      .ok { default with registration := ⟨"me", 2⟩ } := by
  have hfile : ∃ tree, fileTree? (some "[client]\nname = 1\nversion = 2\n") = some tree ∧
      decide ((∀ leaf ∈ Leaf.all, (tree.get? leaf.table).all Tree.isTable = true) ∧
        ofLeaves? (winner tree [⟨"anidb_Client__NAME", "me"⟩]) =
          some { default with registration := ⟨"me", 2⟩ }) = true := by
    rw [← Option.any_eq_true]
    decide +kernel
  obtain ⟨tree, hread, hchecks⟩ := hfile
  obtain ⟨htables, hleaves⟩ := of_decide_eq_true hchecks
  have hsources : Sources (some "[client]\nname = 1\nversion = 2\n") tree
      [⟨"anidb_Client__NAME", "me"⟩] := by
    refine ⟨hread, fun leaf sub hsub => ?_, fun v hv => ⟨.name, ?_⟩, List.pairwise_singleton _ _⟩
    · have htable := htables leaf leaf.mem_all
      rw [Option.mem_def.1 hsub] at htable
      exact htable
    · rw [List.mem_singleton.1 hv]
      decide
  rw [(load_by_leaves hsources).1, hleaves]
  decide +kernel

end AnidbClient.Settings
