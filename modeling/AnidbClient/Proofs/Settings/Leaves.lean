import AnidbClient.Settings

/-!
# The settings one by one

Settings are read from a tree of sections, but each of them is on its own: what a section holds
besides never matters.  A `Leaf` is a single setting, with the section and the key it stands under.

`ofLeaves?` reads the settings from what is found for every leaf, and `ofTree?_eq_ofLeaves?` says
that a table is read so, if its sections are tables where they are there at all.  `Leaf.write?` is
what is written for a leaf: that reads back, and only for the password it is nothing
(`Leaf.typed?_write?`).
-/

namespace AnidbClient.Settings

/-- A single setting. -/
inductive Leaf where
  | host
  | port
  | localPort
  | requestTimeoutSecs
  | sessionTimeoutSecs
  | nat
  | name
  | version
  | username
  | password
  | shortDelayMs
  | longDelayMs
  | shortPeriodSecs
  | resetPeriodSecs
  deriving DecidableEq, Repr

namespace Leaf

/-- The section that a setting stands in. -/
def table : Leaf → Text
  | host | port | localPort | requestTimeoutSecs | sessionTimeoutSecs | nat => "network"
  | name | version => "client"
  | username | password => "credentials"
  | shortDelayMs | longDelayMs | shortPeriodSecs | resetPeriodSecs => "rate_limit"

/-- The key of a setting in its section. -/
def key : Leaf → Text
  | host => "host"
  | port => "port"
  | localPort => "local_port"
  | requestTimeoutSecs => "request_timeout_secs"
  | sessionTimeoutSecs => "session_timeout_secs"
  | nat => "nat"
  | name => "name"
  | version => "version"
  | username => "username"
  | password => "password"
  | shortDelayMs => "short_delay_ms"
  | longDelayMs => "long_delay_ms"
  | shortPeriodSecs => "short_period_secs"
  | resetPeriodSecs => "reset_period_secs"

/-- Where a setting stands. -/
def path (leaf : Leaf) : List Text :=
  [leaf.table, leaf.key]

/-- All settings. -/
def all : List Leaf :=
  [host, port, localPort, requestTimeoutSecs, sessionTimeoutSecs, nat, name, version, username,
    password, shortDelayMs, longDelayMs, shortPeriodSecs, resetPeriodSecs]

theorem mem_all (leaf : Leaf) : leaf ∈ all := by
  cases leaf <;> decide

/-- What a setting holds. -/
abbrev Value : Leaf → Type
  | host | name | username => Text
  | port | localPort => UInt16
  | version => UInt32
  | nat => Bool
  | password => Secret
  | requestTimeoutSecs | sessionTimeoutSecs | shortDelayMs | longDelayMs | shortPeriodSecs
  | resetPeriodSecs => UInt64

/-- A setting among all settings. -/
def get (s : Settings) : (leaf : Leaf) → leaf.Value
  | host => s.endpoint.host
  | port => s.endpoint.port
  | localPort => s.endpoint.localPort
  | requestTimeoutSecs => s.endpoint.requestTimeoutSecs
  | sessionTimeoutSecs => s.endpoint.sessionTimeoutSecs
  | nat => s.endpoint.nat
  | name => s.registration.name
  | version => s.registration.version
  | username => s.account.username
  | password => s.account.password
  | shortDelayMs => s.spacing.shortDelayMs
  | longDelayMs => s.spacing.longDelayMs
  | shortPeriodSecs => s.spacing.shortPeriodSecs
  | resetPeriodSecs => s.spacing.resetPeriodSecs

/-- All settings, from the value of each. -/
def settings (value : (leaf : Leaf) → leaf.Value) : Settings where
  endpoint := {
    host := value .host
    port := value .port
    localPort := value .localPort
    requestTimeoutSecs := value .requestTimeoutSecs
    sessionTimeoutSecs := value .sessionTimeoutSecs
    nat := value .nat }
  registration := {
    name := value .name
    version := value .version }
  account := {
    username := value .username
    password := value .password }
  spacing := {
    shortDelayMs := value .shortDelayMs
    longDelayMs := value .longDelayMs
    shortPeriodSecs := value .shortPeriodSecs
    resetPeriodSecs := value .resetPeriodSecs }

@[simp] theorem get_settings (value : (leaf : Leaf) → leaf.Value) (leaf : Leaf) :
    leaf.get (settings value) = value leaf := by
  cases leaf <;> rfl

/-- A value of the type of the setting; nothing else is taken for one. -/
def read? : (leaf : Leaf) → Tree → Option leaf.Value
  | host | name | username => Tree.text?
  | port | localPort => Tree.u16?
  | version => Tree.u32?
  | nat => Tree.bool?
  | password => fun t => t.text?.map Secret.mk
  | requestTimeoutSecs | sessionTimeoutSecs | shortDelayMs | longDelayMs | shortPeriodSecs
  | resetPeriodSecs => Tree.u64?

/-- The setting from what is found for it: its default if nothing is. -/
def typed? (leaf : Leaf) : Option Tree → Option leaf.Value
  | none => some (leaf.get Settings.default)
  | some t => leaf.read? t

end Leaf

/-! ## Settings from their leaves -/

/-- The server and the waits for it, from what is found for each setting. -/
def Endpoint.ofLeaves? (found : Leaf → Option Tree) : Option Endpoint := do
  return {
    host := ← Leaf.host.typed? (found .host)
    port := ← Leaf.port.typed? (found .port)
    localPort := ← Leaf.localPort.typed? (found .localPort)
    requestTimeoutSecs := ← Leaf.requestTimeoutSecs.typed? (found .requestTimeoutSecs)
    sessionTimeoutSecs := ← Leaf.sessionTimeoutSecs.typed? (found .sessionTimeoutSecs)
    nat := ← Leaf.nat.typed? (found .nat) }

/-- The registered name, from what is found for each setting. -/
def Registration.ofLeaves? (found : Leaf → Option Tree) : Option Registration := do
  return {
    name := ← Leaf.name.typed? (found .name)
    version := ← Leaf.version.typed? (found .version) }

/-- The account, from what is found for each setting. -/
def Account.ofLeaves? (found : Leaf → Option Tree) : Option Account := do
  return {
    username := ← Leaf.username.typed? (found .username)
    password := ← Leaf.password.typed? (found .password) }

/-- The spacing of packets, from what is found for each setting. -/
def Spacing.ofLeaves? (found : Leaf → Option Tree) : Option Spacing := do
  return {
    shortDelayMs := ← Leaf.shortDelayMs.typed? (found .shortDelayMs)
    longDelayMs := ← Leaf.longDelayMs.typed? (found .longDelayMs)
    shortPeriodSecs := ← Leaf.shortPeriodSecs.typed? (found .shortPeriodSecs)
    resetPeriodSecs := ← Leaf.resetPeriodSecs.typed? (found .resetPeriodSecs) }

/-- All settings, from what is found for each; nothing if something of it has the wrong type. -/
def ofLeaves? (found : Leaf → Option Tree) : Option Settings := do
  return {
    endpoint := ← Endpoint.ofLeaves? found
    registration := ← Registration.ofLeaves? found
    account := ← Account.ofLeaves? found
    spacing := ← Spacing.ofLeaves? found }

/-- What is found matters only as far as it is typed. -/
theorem ofLeaves?_congr {found found' : Leaf → Option Tree}
    (h : ∀ leaf : Leaf, leaf.typed? (found leaf) = leaf.typed? (found' leaf)) :
    ofLeaves? found = ofLeaves? found' := by
  simp only [ofLeaves?, Endpoint.ofLeaves?, Registration.ofLeaves?, Account.ofLeaves?,
    Spacing.ofLeaves?, h]

/-- Where each setting is found as it is in some settings, these are read. -/
theorem ofLeaves?_eq_some {found : Leaf → Option Tree} {s : Settings}
    (h : ∀ leaf : Leaf, leaf.typed? (found leaf) = some (leaf.get s)) :
    ofLeaves? found = some s := by
  simp only [ofLeaves?, Endpoint.ofLeaves?, Registration.ofLeaves?, Account.ofLeaves?,
    Spacing.ofLeaves?, h]
  rfl

/-! ## Settings from a tree -/

namespace Tree

/-- A value is a table. -/
def isTable : Tree → Bool
  | table _ => true
  | _ => false

/-- What a tree holds for a setting. -/
def leaf? (t : Tree) (leaf : Leaf) : Option Tree :=
  (t.get? leaf.table).bind (get? leaf.key)

/-- The section of each setting is a table, if it is there at all. -/
def Sectioned (t : Tree) : Prop :=
  ∀ leaf : Leaf, ∀ sub ∈ t.get? leaf.table, sub.isTable = true

end Tree

section Tables

variable (surplus : Surplus) {es : Entries} {found : Leaf → Option Tree}

theorem Endpoint.ofTree?_table
    (h : ∀ leaf : Leaf, leaf.table = "network".toList → find? leaf.key es = found leaf) :
    Endpoint.ofTree? surplus (.table es) = Endpoint.ofLeaves? found := by
  unfold Endpoint.ofLeaves?
  rw [← h .host rfl, ← h .port rfl, ← h .localPort rfl, ← h .requestTimeoutSecs rfl,
    ← h .sessionTimeoutSecs rfl, ← h .nat rfl]
  rfl

theorem Registration.ofTree?_table
    (h : ∀ leaf : Leaf, leaf.table = "client".toList → find? leaf.key es = found leaf) :
    Registration.ofTree? surplus (.table es) = Registration.ofLeaves? found := by
  unfold Registration.ofLeaves?
  rw [← h .name rfl, ← h .version rfl]
  rfl

theorem Account.ofTree?_table
    (h : ∀ leaf : Leaf, leaf.table = "credentials".toList → find? leaf.key es = found leaf) :
    Account.ofTree? surplus (.table es) = Account.ofLeaves? found := by
  unfold Account.ofLeaves?
  rw [← h .username rfl, ← h .password rfl]
  rfl

theorem Spacing.ofTree?_table
    (h : ∀ leaf : Leaf, leaf.table = "rate_limit".toList → find? leaf.key es = found leaf) :
    Spacing.ofTree? surplus (.table es) = Spacing.ofLeaves? found := by
  unfold Spacing.ofLeaves?
  rw [← h .shortDelayMs rfl, ← h .longDelayMs rfl, ← h .shortPeriodSecs rfl,
    ← h .resetPeriodSecs rfl]
  rfl

/-- A section that is there is a table, and one that is not there is read like an empty one. -/
theorem get_section {α : Type} (place : Nat) (absent : α) (read? : Tree → Option α) {key : Text}
    {a : Option α} (hempty : read? .empty = some absent)
    (hsub : ∀ sub ∈ find? key es, sub.isTable = true)
    (hread : ∀ fs : Entries,
      (∀ leaf : Leaf, leaf.table = key → find? leaf.key fs = (Tree.table es).leaf? leaf) →
        read? (.table fs) = a) :
    Section.get place key absent read? (.keyed es) = a := by
  cases hfind : find? key es with
  | none =>
    have hnone : ∀ leaf : Leaf, leaf.table = key →
        find? leaf.key [] = (Tree.table es).leaf? leaf := by
      rintro leaf rfl
      simp only [Tree.leaf?, Tree.get?, hfind, Option.bind_none, find?]
    simp only [Section.get, Section.field?, hfind]
    rw [← hread [] hnone, ← hempty]
    rfl
  | some sub =>
    cases sub with
    | table fs =>
      have hsome : ∀ leaf : Leaf, leaf.table = key →
          find? leaf.key fs = (Tree.table es).leaf? leaf := by
        rintro leaf rfl
        simp only [Tree.leaf?, Tree.get?, hfind, Option.bind_some]
      simp only [Section.get, Section.field?, hfind]
      exact hread fs hsome
    | _ => cases hsub _ hfind

/-- A table is read leaf by leaf, if its sections are tables where they are there at all. -/
theorem ofTree?_eq_ofLeaves? (h : (Tree.table es).Sectioned) :
    ofTree? surplus (.table es) = ofLeaves? (Tree.table es).leaf? := by
  have hnetwork := get_section 0 .default (Endpoint.ofTree? surplus) rfl (h .host)
    fun _ => Endpoint.ofTree?_table surplus
  have hclient := get_section 1 .default (Registration.ofTree? surplus) rfl (h .name)
    fun _ => Registration.ofTree?_table surplus
  have haccount := get_section 2 .default (Account.ofTree? surplus) rfl (h .username)
    fun _ => Account.ofTree?_table surplus
  have hspacing := get_section 3 .default (Spacing.ofTree? surplus) rfl (h .shortDelayMs)
    fun _ => Spacing.ofTree?_table surplus
  unfold ofLeaves?
  rw [← hnetwork, ← hclient, ← haccount, ← hspacing]
  rfl

end Tables

/-! ## Settings as they are written -/

theorem Tree.natural?_ofNat {bound n : Nat} (hn : n < bound) :
    (Tree.ofNat n).natural? bound = some n := by
  show (if 0 ≤ (n : Int) ∧ (n : Int) < bound then some n else none) = some n
  exact if_pos ⟨Int.natCast_nonneg n, Int.ofNat_lt.2 hn⟩

theorem Tree.u16?_ofNat (n : UInt16) : (Tree.ofNat n.toNat).u16? = some n := by
  unfold Tree.u16?
  rw [natural?_ofNat n.toNat_lt, Option.map_some, UInt16.ofNat_toNat]

theorem Tree.u32?_ofNat (n : UInt32) : (Tree.ofNat n.toNat).u32? = some n := by
  unfold Tree.u32?
  rw [natural?_ofNat n.toNat_lt, Option.map_some, UInt32.ofNat_toNat]

theorem Tree.u64?_ofNat (n : UInt64) : (Tree.ofNat n.toNat).u64? = some n := by
  unfold Tree.u64?
  rw [natural?_ofNat n.toNat_lt, Option.map_some, UInt64.ofNat_toNat]

theorem sectioned_toTree (s : Settings) : s.toTree.Sectioned := by
  intro leaf sub hsub
  cases leaf <;> cases hsub <;> rfl

/-- What is written for a setting; nothing for the password. -/
def Leaf.write? : (leaf : Leaf) → leaf.Value → Option Tree
  | host, s | name, s | username, s => some (.text s)
  | port, n | localPort, n => some (.ofNat n.toNat)
  | version, n => some (.ofNat n.toNat)
  | nat, b => some (.bool b)
  | password, _ => none
  | requestTimeoutSecs, n | sessionTimeoutSecs, n | shortDelayMs, n | longDelayMs, n
  | shortPeriodSecs, n | resetPeriodSecs, n => some (.ofNat n.toNat)

theorem leaf?_toTree (s : Settings) (leaf : Leaf) :
    s.toTree.leaf? leaf = leaf.write? (leaf.get s) := by
  cases leaf <;> rfl

/-- Every setting but the password is written as it is read. -/
theorem Leaf.typed?_write? {leaf : Leaf} (hleaf : leaf ≠ .password) (v : leaf.Value) :
    leaf.typed? (leaf.write? v) = some v := by
  cases leaf with
  | port | localPort => exact Tree.u16?_ofNat v
  | version => exact Tree.u32?_ofNat v
  | requestTimeoutSecs | sessionTimeoutSecs | shortDelayMs | longDelayMs | shortPeriodSecs
  | resetPeriodSecs => exact Tree.u64?_ofNat v
  | password => exact absurd rfl hleaf
  | _ => rfl

end AnidbClient.Settings
