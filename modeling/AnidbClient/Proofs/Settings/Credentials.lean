import AnidbClient.Proofs.CommandLine.Login
import AnidbClient.Proofs.Settings.Notation
import AnidbClient.Settings.Load

/-!
# Credentials from the environment

Settings of which only a credential is set, by its environment variable, are the defaults with that
credential, if the text of the variable stands for a text, and cannot be read otherwise
(`load_variable`).  So a credential arrives as it was set exactly where the notation of values makes
nothing else of its text (`credential_arrives`): a password of digits is refused as a number, and
one that begins or ends with a blank loses the blank.
-/

namespace AnidbClient.Settings

/-- What an account is made of. -/
inductive Credential where
  | username
  | password

namespace Credential

/-- The key of a credential in its section. -/
def key : Credential → Text
  | username => "username"
  | password => "password"

/-- The variable that sets a credential. -/
def variableName : Credential → Text
  | username => "ANIDB_CREDENTIALS__USERNAME"
  | password => "ANIDB_CREDENTIALS__PASSWORD"

/-- Where a credential stands in the settings. -/
def path (k : Credential) : List Text :=
  ["credentials", k.key]

/-- The settings with another credential. -/
def put (k : Credential) (p : Text) (s : Settings) : Settings :=
  { s with
    account :=
      match k with
      | username => { s.account with username := p }
      | password => { s.account with password := ⟨p⟩ } }

end Credential

/-! ## The layers -/

theorem path?_variableName (k : Credential) (p : Text) :
    Variable.path? ⟨k.variableName, p⟩ = some k.path := by
  cases k <;> rfl

theorem toTree_variable (k : Credential) (p : Text) :
    Environment.toTree [⟨k.variableName, p⟩] =
      .table [("credentials", .table [(k.key, Variable.read p)])] := by
  have htree : Variable.tree? ⟨k.variableName, p⟩ =
      some (.nest k.path (Variable.read p)) := by
    unfold Variable.tree?
    rw [path?_variableName]
    rfl
  unfold Environment.toTree
  rw [List.filterMap_cons_some htree]
  rfl

/-- The entries of an account of which one credential is set, over the defaults. -/
def Credential.entries (k : Credential) (t : Tree) : Entries :=
  match k with
  | .username => [("username", t)]
  | .password => [("username", .text []), ("password", t)]

theorem layered_variable (k : Credential) (p : Text) :
    layered none [⟨k.variableName, p⟩] =
      .table [
        ("network", default.endpoint.toTree),
        ("client", default.registration.toTree),
        ("credentials", .table (k.entries (Variable.read p))),
        ("rate_limit", default.spacing.toTree)] := by
  unfold layered
  rw [toTree_variable]
  generalize Variable.read p = t
  cases k <;> rfl

theorem accountOfTree?_entries (k : Credential) (t : Tree) :
    Account.ofTree? .ignored (.table (k.entries t)) =
      t.text?.map fun s => (k.put s default).account := by
  cases k <;> cases t <;> rfl

theorem ofTree?_sections (surplus : Surplus) (e r a s : Tree) :
    ofTree? surplus (.table
        [("network", e), ("client", r), ("credentials", a), ("rate_limit", s)]) =
      (do
        return {
          endpoint := ← Endpoint.ofTree? surplus e
          registration := ← Registration.ofTree? surplus r
          account := ← Account.ofTree? surplus a
          spacing := ← Spacing.ofTree? surplus s }) := rfl

theorem ofTree?_layered (k : Credential) (p : Text) :
    ofTree? .ignored (layered none [⟨k.variableName, p⟩]) =
      (Variable.read p).text?.map fun t => k.put t default := by
  have hendpoint : Endpoint.ofTree? .ignored default.endpoint.toTree =
    some default.endpoint := rfl
  have hregistration : Registration.ofTree? .ignored default.registration.toTree =
    some default.registration := rfl
  have hspacing : Spacing.ofTree? .ignored default.spacing.toTree = some default.spacing := rfl
  rw [layered_variable, ofTree?_sections, hendpoint, hregistration, accountOfTree?_entries,
    hspacing]
  cases (Variable.read p).text? with
  | none => rfl
  | some t => cases k <;> rfl

/-! ## Loading -/

theorem check_put (k : Credential) (p : Text) (s : Settings) : (k.put p s).check = s.check := by
  cases k <;> rfl

theorem put_injective {k : Credential} {p q : Text} {s : Settings} (h : k.put p s = k.put q s) :
    p = q := by
  cases k with
  | username => exact congrArg (fun s => s.account.username) h
  | password => exact congrArg (fun s => s.account.password.reveal) h

/-- Where one credential is set, the settings are the defaults with that credential, if the variable
stands for a text, and are refused otherwise. -/
theorem load_variable (k : Credential) (p : Text) :
    load none [⟨k.variableName, p⟩] =
      (Variable.read p).text?.elim (.error .unreadable) fun t => .ok (k.put t default) := by
  show ofLayers none _ = _
  unfold ofLayers
  rw [ofTree?_layered]
  cases (Variable.read p).text? with
  | none => rfl
  | some t =>
    have hvalid : default.check = .ok () := check_eq_ok_iff.2 (by decide +kernel)
    show (k.put t default).check.map _ = _
    rw [check_put, hvalid]
    rfl

/-! ## The login -/

/-- What stands before a credential in the line of a login whose other credential is empty. -/
def Credential.lineFront : Credential → Text
  | username => "AUTH user="
  | password => "AUTH user=&pass="

/-- What stands behind a credential in such a line. -/
def Credential.lineBack (k : Credential) (session tag : Option Text) : Text :=
  match k with
  | username => "&pass=" ++ default.authRequest.lineBack session tag
  | password => default.authRequest.lineBack session tag

theorem line_put (k : Credential) (p : Text) (session tag : Option Text) :
    (Request.auth (k.put p default).authRequest).line session tag =
      k.lineFront ++ Wire.encode p ++ k.lineBack session tag := by
  rw [AuthRequest.line_eq]
  cases k with
  | username =>
    show "AUTH user=".toList ++ Wire.encode p ++ "&pass=".toList ++ Wire.encode [] ++
      default.authRequest.lineBack session tag =
        "AUTH user=".toList ++ Wire.encode p ++
          ("&pass=".toList ++ default.authRequest.lineBack session tag)
    simp only [Wire.encode_nil, List.append_nil, List.append_assoc]
  | password => rfl

/-- A credential from the environment arrives unchanged, and goes out encoded, if and only if the
notation of values makes nothing else of it.  Where it does, the settings are refused, or hold what
it makes of the text. -/
theorem credential_arrives (k : Credential) (p : Text) :
    (load none [⟨k.variableName, p⟩] = .ok (k.put p default) ↔
        ∀ o, ¬ Variable.ReadsAs p o) ∧
      (∀ o, Variable.ReadsAs p o → load none [⟨k.variableName, p⟩] =
        o.elim (.error .unreadable) fun t => .ok (k.put t default)) ∧
      ∀ session tag, (Request.auth (k.put p default).authRequest).line session tag =
        k.lineFront ++ Wire.encode p ++ k.lineBack session tag := by
  rw [load_variable, ← Variable.text?_read_eq_some_iff]
  refine ⟨⟨fun hload => ?_, fun hread => ?_⟩, fun o hreads => ?_, line_put k p⟩
  · cases hread : (Variable.read p).text? with
    | none =>
      rw [hread] at hload
      cases hload
    | some t =>
      rw [hread] at hload
      rw [put_injective (Except.ok.inj hload)]
  · rw [hread]
    rfl
  · rw [Variable.text?_read hreads]

/-- A password of digits is taken for a number, which is no text. -/
theorem digits_refused :
    load none [⟨"ANIDB_CREDENTIALS__PASSWORD", "12345678"⟩] = .error .unreadable ∧
      load none [⟨"ANIDB_CREDENTIALS__PASSWORD", "12345678"⟩] ≠
        .ok (Credential.password.put "12345678" default) := by
  have hread : (Variable.read "12345678").text? = none := by decide +kernel
  have hload : load none [⟨Credential.password.variableName, "12345678"⟩] = .error .unreadable := by
    rw [load_variable, hread]
    rfl
  exact ⟨hload, fun h => nomatch hload.symm.trans h⟩

example : load none [⟨"ANIDB_CREDENTIALS__PASSWORD", " s3cret"⟩] =
    .ok (Credential.password.put "s3cret" default) := by
  decide +kernel

end AnidbClient.Settings
