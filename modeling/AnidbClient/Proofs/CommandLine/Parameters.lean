import AnidbClient.Proofs.CommandLine

/-!
# The parameters of a command line

An ampersand of a value is written `&amp;`, so whoever knows this can tell it from the ampersands
that separate parameters.  `CommandLine.parameters` cuts a line as such a reader does, and
`parameters_line` says that the parameters of a command are found as they were put in, whatever
their values are.  One of them is the key of the session (`sessionKey?_line`).
-/

namespace AnidbClient

namespace CommandLine

open Request

/-! ## Cutting at the ampersands that separate -/

/-- The pieces between those ampersands that begin no encoded one. -/
def splitParameters : Text → List Text
  | [] => [[]]
  | c :: rest =>
    if c = '&' ∧ Text.dropPrefix? "amp;" rest = none then [] :: splitParameters rest
    else (splitParameters rest).modifyHead (c :: ·)

/-- The parameters of a line, each as it stands there. -/
def parameters (line : Text) : List Text :=
  match Text.cut? ' ' line with
  | none => []
  | some (_, rest) => splitParameters rest

/-- The key of the session that a line carries, as it stands there. -/
def sessionKey? (line : Text) : Option Text :=
  (parameters line).findSome? (Text.dropPrefix? "s=")

theorem splitParameters_separator {rest : Text} (hrest : Text.dropPrefix? "amp;" rest = none) :
    splitParameters ('&' :: rest) = [] :: splitParameters rest := by
  rw [splitParameters, if_pos ⟨rfl, hrest⟩]

theorem splitParameters_append {s : Text} (hs : '&' ∉ s) (rest : Text) :
    splitParameters (s ++ rest) = (splitParameters rest).modifyHead (s ++ ·) := by
  induction s with
  | nil => cases h : splitParameters rest <;> simp [h]
  | cons c s ih =>
    rw [List.mem_cons, not_or] at hs
    rw [List.cons_append, splitParameters, if_neg fun h => hs.1 h.1.symm, ih hs.2,
      List.modifyHead_modifyHead]
    rfl

/-- An encoded ampersand separates nothing. -/
theorem splitParameters_encodedAmpersand (rest : Text) :
    splitParameters (Wire.encodedAmpersand ++ rest) =
      (splitParameters rest).modifyHead (Wire.encodedAmpersand ++ ·) := by
  have hkept : ¬ ('&' = '&' ∧ Text.dropPrefix? "amp;" ("amp;".toList ++ rest) = none) := by
    rw [Text.dropPrefix?_eq_some_iff.2 rfl]
    simp
  show splitParameters ('&' :: ("amp;".toList ++ rest)) = _
  rw [splitParameters, if_neg hkept, splitParameters_append (by decide), List.modifyHead_modifyHead]
  rfl

/-- No value is cut. -/
theorem splitParameters_encode (v rest : Text) :
    splitParameters (Wire.encode v ++ rest) =
      (splitParameters rest).modifyHead (Wire.encode v ++ ·) := by
  induction v with
  | nil => cases h : splitParameters rest <;> simp [h]
  | cons c v ih =>
    have hchar : ∀ s, splitParameters (Wire.encodeChar c ++ s) =
        (splitParameters s).modifyHead (Wire.encodeChar c ++ ·) := by
      intro s
      by_cases hc : c = '&'
      · rw [hc]
        exact splitParameters_encodedAmpersand s
      · exact splitParameters_append (Wire.not_mem_encodeChar hc) s
    show splitParameters (Wire.encodeChar c ++ Wire.encode v ++ rest) = _
    rw [List.append_assoc, hchar, ih, List.modifyHead_modifyHead]
    congr 1
    funext s
    exact (List.append_assoc _ _ _).symm

/-! ## The parameters of a command -/

/-- The name of a parameter holds none of the characters that mark where things begin or end. -/
def IsKey (key : Text) : Prop :=
  ∀ c ∈ key, c ≠ '&' ∧ c ≠ ';' ∧ c ≠ '='

instance (key : Text) : Decidable (IsKey key) :=
  List.decidableBAll (fun c => c ≠ '&' ∧ c ≠ ';' ∧ c ≠ '=') key

/-- No ampersand stands in front of the value of a parameter. -/
theorem IsKey.not_mem_front {key : Text} (hkey : IsKey key) : '&' ∉ key ++ ['='] := by
  rw [List.mem_append, not_or]
  exact ⟨fun hmem => (hkey _ hmem).1 rfl, by decide⟩

theorem parameterText_eq_append (p : Parameter) :
    parameterText p = (p.key ++ ['=']) ++ Wire.encode p.value := by
  simp [parameterText]

/-- The names of all parameters but those of the envelope. -/
def requestKeys : List Text :=
  ["user", "pass", "protover", "client", "clientver", "nat", "enc", "mtu", "size", "ed2k", "state",
    "viewed", "viewdate", "edit"]

theorem mem_requestKeys (r : Request) : ∀ p ∈ r.parameters, p.key ∈ requestKeys := by
  have hnat : ∀ nat, ∀ p ∈ natParameter nat, p.key ∈ requestKeys := by decide
  have hfile : ∀ f, ∀ p ∈ fileParameters f, p.key ∈ requestKeys := by
    simp [fileParameters, requestKeys]
  have hfiling : ∀ f, ∀ p ∈ filingParameters f, p.key ∈ requestKeys := by
    intro f p hp
    unfold filingParameters at hp
    rcases List.mem_append.1 hp with hp | hp
    · rcases List.mem_append.1 hp with hp | hp
      · exact hfile f.file p hp
      · obtain rfl := List.mem_singleton.1 hp
        simp [requestKeys]
    · split at hp
      · rcases List.mem_cons.1 hp with rfl | hp
        · simp [requestKeys]
        · obtain ⟨date, _, rfl⟩ := List.mem_map.1 hp
          simp [requestKeys]
      · cases hp
  cases r with
  | auth a =>
    intro p hp
    simp only [Request.parameters, authParameters, List.mem_append, List.mem_map, List.mem_cons,
      List.not_mem_nil, or_false] at hp
    rcases hp with (((rfl | rfl | rfl | rfl | rfl) | hp) | rfl) | ⟨mtu, _, rfl⟩
    · simp [requestKeys]
    · simp [requestKeys]
    · simp [requestKeys]
    · simp [requestKeys]
    · simp [requestKeys]
    · exact hnat a.nat p hp
    · simp [requestKeys]
    · simp [requestKeys]
  | logout => simp [Request.parameters]
  | ping nat => exact hnat nat
  | calendar => simp [Request.parameters]
  | add f => exact hfiling f
  | update f =>
    intro p hp
    rcases List.mem_append.1 hp with hp | hp
    · exact hfiling f p hp
    · obtain rfl := List.mem_singleton.1 hp
      simp [requestKeys]
  | remove f => exact hfile f

/-- The names of all parameters. -/
def lineKeys : List Text :=
  "s" :: "tag" :: requestKeys

theorem mem_lineKeys {r : Request} {key tag : Option Text} {p : Parameter}
    (hp : p ∈ r.parameters ++ envelope key tag) : p.key ∈ lineKeys := by
  unfold envelope at hp
  rcases List.mem_append.1 hp with hp | hp
  · exact .tail _ (.tail _ (mem_requestKeys r p hp))
  · rcases List.mem_append.1 hp with hp | hp
    · obtain ⟨_, _, rfl⟩ := List.mem_map.1 hp
      exact .head _
    · obtain ⟨_, _, rfl⟩ := List.mem_map.1 hp
      exact .tail _ (.head _)

theorem isKey_of_mem {r : Request} {key tag : Option Text} {p : Parameter}
    (hp : p ∈ r.parameters ++ envelope key tag) : IsKey p.key := by
  have hkeys : ∀ k ∈ lineKeys, IsKey k := by decide
  exact hkeys _ (mem_lineKeys hp)

/-- No parameter looks like the rest of an encoded ampersand. -/
theorem dropPrefix?_amp_eq_none {key : Text} (hkey : IsKey key) (s : Text) :
    Text.dropPrefix? "amp;" (key ++ '=' :: s) = none := by
  match key, hkey with
  | [], _ => simp [Text.dropPrefix?]
  | [a], _ => simp [Text.dropPrefix?]
  | [a, b], _ => simp [Text.dropPrefix?]
  | [a, b, c], _ => simp [Text.dropPrefix?]
  | a :: b :: c :: d :: key, hkey =>
    have hd : ';' ≠ d := (hkey d (by simp)).2.1.symm
    simp [Text.dropPrefix?, hd]

/-- A parameter with another name is not the key of the session. -/
theorem dropPrefix?_s_eq_none {p : Parameter} (hkey : IsKey p.key) (hne : p.key ≠ "s") :
    Text.dropPrefix? "s=" (parameterText p) = none := by
  obtain ⟨name, value⟩ := p
  unfold parameterText
  match name, hkey, hne with
  | [], _, _ => simp [Text.dropPrefix?]
  | [a], _, hne =>
    have ha : 's' ≠ a := by
      rintro rfl
      exact hne rfl
    simp [Text.dropPrefix?, ha]
  | a :: b :: name, hkey, _ =>
    have hb : '=' ≠ b := (hkey b (by simp)).2.2.symm
    simp [Text.dropPrefix?, hb]

/-- No parameter is cut. -/
theorem splitParameters_parameterText {p : Parameter} (hkey : IsKey p.key) (rest : Text) :
    splitParameters (parameterText p ++ rest) =
      (splitParameters rest).modifyHead (parameterText p ++ ·) := by
  rw [parameterText_eq_append, List.append_assoc, splitParameters_append hkey.not_mem_front,
    splitParameters_encode, List.modifyHead_modifyHead]
  congr 1
  funext s
  exact (List.append_assoc _ _ _).symm

/-- Parameters that are put together begin with the name of the first one. -/
theorem exists_join_parameterText (p : Parameter) (ps : List Parameter) :
    ∃ s, Text.join '&' ((p :: ps).map parameterText) = p.key ++ '=' :: s := by
  cases ps with
  | nil => exact ⟨Wire.encode p.value, by simp [Text.join, parameterText]⟩
  | cons q ps =>
    refine ⟨Wire.encode p.value ++ '&' :: Text.join '&' ((q :: ps).map parameterText), ?_⟩
    simp [Text.join, List.intercalate_cons_cons, parameterText]

theorem splitParameters_join {ps : List Parameter} (hne : ps ≠ [])
    (hps : ∀ p ∈ ps, IsKey p.key) :
    splitParameters (Text.join '&' (ps.map parameterText)) = ps.map parameterText := by
  induction ps with
  | nil => exact absurd rfl hne
  | cons p ps ih =>
    have hcut := splitParameters_parameterText (hps p List.mem_cons_self)
    cases ps with
    | nil =>
      have hlast := hcut []
      rw [List.append_nil] at hlast
      simp [Text.join, hlast, splitParameters]
    | cons q ps =>
      have hrest := ih (by simp) fun p' hp => hps p' (List.mem_cons_of_mem p hp)
      have hnext :
          Text.dropPrefix? "amp;" (Text.join '&' ((q :: ps).map parameterText)) = none := by
        obtain ⟨s, hs⟩ := exists_join_parameterText q ps
        rw [hs]
        exact dropPrefix?_amp_eq_none (hps q (by simp)) s
      have hjoin : Text.join '&' ((p :: q :: ps).map parameterText) =
          parameterText p ++ '&' :: Text.join '&' ((q :: ps).map parameterText) := by
        simp [Text.join, List.intercalate_cons_cons]
      rw [hjoin, hcut, splitParameters_separator hnext, hrest]
      simp

/-- The parameters of a command are found as they were put in. -/
theorem parameters_line (r : Request) (key tag : Option Text) :
    parameters (r.line key tag) = (r.parameters ++ envelope key tag).map parameterText := by
  unfold parameters line lineOf
  by_cases hnone : r.parameters ++ envelope key tag = []
  · have hcut : Text.cut? ' ' r.command = none := by
      cases r <;> rfl
    rw [hnone, List.map_nil, if_pos rfl, hcut]
  · have hsome : (r.parameters ++ envelope key tag).map parameterText ≠ [] := by
      simpa using hnone
    rw [if_neg hsome, Text.cut?_append r.not_mem_command]
    exact splitParameters_join hnone fun p hp => isKey_of_mem hp

/-- A line carries the key of the session if it was given one, and no other. -/
theorem sessionKey?_line (r : Request) (key tag : Option Text) :
    sessionKey? (r.line key tag) = key.map Wire.encode := by
  have hrequest : (r.parameters.map parameterText).findSome? (Text.dropPrefix? "s=") = none := by
    have hnames : ∀ k ∈ requestKeys, k ≠ "s" := by decide
    rw [List.findSome?_eq_none_iff]
    intro piece hpiece
    obtain ⟨p, hp, rfl⟩ := List.mem_map.1 hpiece
    have hmem : p ∈ r.parameters ++ envelope key tag := List.mem_append_left _ hp
    exact dropPrefix?_s_eq_none (isKey_of_mem hmem) (hnames _ (mem_requestKeys r p hp))
  unfold sessionKey?
  rw [parameters_line, List.map_append, List.findSome?_append, hrequest, Option.none_or]
  cases key with
  | some k =>
    have hkey : Text.dropPrefix? "s=" (parameterText ⟨"s", k⟩) = some (Wire.encode k) :=
      Text.dropPrefix?_eq_some_iff.2 rfl
    show (parameterText ⟨"s", k⟩ :: _).findSome? _ = _
    rw [List.findSome?_cons, hkey]
    rfl
  | none =>
    cases tag with
    | none => rfl
    | some t =>
      have htag : Text.dropPrefix? "s=" (parameterText ⟨"tag", t⟩) = none :=
        dropPrefix?_s_eq_none (by decide : IsKey "tag") (by decide : ("tag" : Text) ≠ "s")
      show [parameterText ⟨"tag", t⟩].findSome? _ = _
      rw [List.findSome?_cons, htag]
      rfl

end CommandLine

end AnidbClient
