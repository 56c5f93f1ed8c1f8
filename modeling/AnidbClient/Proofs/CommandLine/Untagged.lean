import AnidbClient.Proofs.CommandLine.Lookup
import AnidbClient.Proofs.CommandLine.Unambiguous

/-!
# Taking the tag out of a command line

A server that cuts a line at every ampersand is left with more pieces than the line has parameters,
for it also cuts at the ampersands that are written in values.  None of the pieces of a value passes
for the tag: the first one begins with the name of the parameter, and the others begin with `amp;`.
So only the tag is taken out, and the other pieces, put together again, are the line as it would be
without one (`splitTag_line_eq`).

`servers_recover_command` adds what is found when a parameter is looked up by its name.
-/

namespace AnidbClient.CommandLine

open Request

/-! ## Pieces that give no tag -/

/-- A parameter is not taken for one with another name. -/
theorem dropPrefix?_eq_none_of_ne (name : Text) {key : Text} (hname : '=' ∉ name)
    (hkey : IsKey key) (hne : key ≠ name) (value : Text) :
    Text.dropPrefix? (name ++ ['=']) (key ++ '=' :: value) = none := by
  have hequals : '=' ∉ key := fun hmem => (hkey _ hmem).2.2 rfl
  rw [Option.eq_none_iff_forall_ne_some]
  intro rest hrest
  have heq := Text.dropPrefix?_eq_some_iff.1 hrest
  rw [List.append_assoc, List.singleton_append] at heq
  have hcut := Text.cut?_append hequals value
  rw [heq, Text.cut?_append hname, Option.some.injEq, Prod.mk.injEq] at hcut
  exact hne hcut.1.symm

/-- No piece of a parameter gives a tag, unless the parameter is one. -/
theorem tagOf?_of_mem_split {p : Parameter} (hkey : IsKey p.key) (hne : p.key ≠ "tag")
    {piece : Text} (hpiece : piece ∈ Text.split '&' (parameterText p)) : tagOf? piece = none := by
  obtain ⟨cut, hcut, hpieces⟩ := split_encode p.value
  rw [parameterText_eq_append, Text.split_append_of_not_mem hkey.not_mem_front, hcut,
    List.modifyHead_cons, List.mem_cons] at hpiece
  rcases hpiece with rfl | hmem
  · rw [List.append_assoc, List.singleton_append]
    exact dropPrefix?_eq_none_of_ne "tag" (by decide) hkey hne _
  · obtain ⟨rest, rfl⟩ := hpieces piece hmem
    rfl

theorem tagOf?_tag (value : Text) : tagOf? ("tag=" ++ value) = some value :=
  Text.dropPrefix?_eq_some_iff.2 rfl

/-! ## The rest of the line -/

/-- Behind parameters that are no tags, the tag is the only thing that is taken out. -/
theorem splitTag_parameters {command : Text} (hcommand : ' ' ∉ command) {ps : List Parameter}
    (hps : ∀ p ∈ ps, IsKey p.key ∧ p.key ≠ "tag") {value : Text} (hvalue : '&' ∉ value) :
    splitTag (command ++ ' ' :: Text.join '&' (ps.map parameterText ++ ["tag=" ++ value])) =
      (lineOf command (ps.map parameterText), some value) := by
  have hlast : Text.split '&' ("tag=" ++ value) = ["tag=" ++ value] := by
    apply Text.split_of_not_mem
    rw [List.mem_append, not_or]
    exact ⟨by decide, hvalue⟩
  have hpieces : Text.split '&' (Text.join '&' (ps.map parameterText ++ ["tag=" ++ value])) =
      (ps.map parameterText).flatMap (Text.split '&') ++ ["tag=" ++ value] := by
    rw [Text.split_join_eq_flatMap '&' (by simp), List.flatMap_append, List.flatMap_singleton,
      hlast]
  have htagless : ∀ piece ∈ (ps.map parameterText).flatMap (Text.split '&'),
      tagOf? piece = none := by
    intro piece hpiece
    obtain ⟨_, htext, hpiece⟩ := List.mem_flatMap.1 hpiece
    obtain ⟨p, hp, rfl⟩ := List.mem_map.1 htext
    exact tagOf?_of_mem_split (hps p hp).1 (hps p hp).2 hpiece
  have hkept : ((ps.map parameterText).flatMap (Text.split '&') ++ ["tag=" ++ value]).filter
      (fun piece => (tagOf? piece).isNone) = (ps.map parameterText).flatMap (Text.split '&') := by
    have htag : ["tag=" ++ value].filter (fun piece => (tagOf? piece).isNone) = [] := by
      apply List.filter_cons_of_neg
      rw [tagOf?_tag]
      exact Bool.false_ne_true
    rw [List.filter_append, htag, List.append_nil, List.filter_eq_self]
    intro piece hpiece
    rw [htagless piece hpiece]
    rfl
  unfold splitTag
  rw [Text.cut?_append hcommand]
  dsimp only
  rw [hpieces, hkept, List.filterMap_append, List.filterMap_cons_some (tagOf?_tag value),
    List.filterMap_nil, List.getLast?_concat]
  congr 1
  unfold lineOf
  by_cases hnone : ps.map parameterText = []
  · rw [hnone]
    rfl
  · have hsplit : Text.split '&' (Text.join '&' (ps.map parameterText)) ≠ [] :=
      Text.splitWhen_ne_nil _ _
    rw [if_neg hnone, ← Text.split_join_eq_flatMap '&' hnone, if_neg hsplit, Text.join_split]

/-- The names of the parameters in front of the tag. -/
theorem key_ne_tag {r : Request} {session : Option Text} {p : Parameter}
    (hp : p ∈ r.parameters ++ envelope session none) : p.key ≠ "tag" := by
  have hnames : ∀ key ∈ "s".toList :: requestKeys, key ≠ "tag" := by decide
  rcases List.mem_append.1 hp with hp | hp
  · exact hnames _ (.tail _ (mem_requestKeys r p hp))
  · obtain ⟨key, -, rfl⟩ : ∃ key, key ∈ session ∧ (⟨"s", key⟩ : Parameter) = p := by
      simpa [envelope] using hp
    exact hnames _ (.head _)

/-- What is left of a line when its tag is taken out is the line without one. -/
theorem splitTag_line_eq (r : Request) (session : Option Text) {t : Text} (ht : '&' ∉ t) :
    splitTag (r.line session (some t)) = (r.line session none, some (Wire.encode t)) := by
  have hgiven : r.parameters ++ envelope session none =
      r.parameters ++ session.toList.map fun key => (⟨"s", key⟩ : Parameter) := by
    simp [envelope]
  rw [line_tagged, ← hgiven]
  exact splitTag_parameters r.not_mem_command (fun p hp => ⟨isKey_of_mem hp, key_ne_tag hp⟩)
    (Wire.not_mem_encode ht)

/-! ## Looking parameters up -/

/-- The names of a login stand in this order, those that may be missing included. -/
theorem keys_authParameters (a : AuthRequest) :
    ((authParameters a).map Parameter.key).Sublist requestKeys := by
  have hnat : ((natParameter a.nat).map Parameter.key).Sublist ["nat"] := by
    cases a.nat
    · exact List.nil_sublist _
    · exact List.Sublist.refl _
  have hmtu : ((a.mtu.toList.map fun mtu => (⟨"mtu", Text.digits mtu.toNat⟩ : Parameter)).map
      Parameter.key).Sublist ["mtu"] := by
    cases a.mtu
    · exact List.nil_sublist _
    · exact List.Sublist.refl _
  have hnames : List.Sublist
      (["user", "pass", "protover", "client", "clientver", "nat", "enc", "mtu"] : List Text)
      requestKeys := by
    decide
  unfold authParameters
  rw [List.map_append, List.map_append, List.map_append]
  exact ((((List.Sublist.refl _).append hnat).append (List.Sublist.refl _)).append hmtu).trans
    hnames

/-- The names of an entry of the list stand in this order. -/
theorem keys_filingParameters (f : Filing) :
    ((filingParameters f).map Parameter.key).Sublist
      ["size", "ed2k", "state", "viewed", "viewdate"] := by
  have hfront : ∀ back : List Parameter, (back.map Parameter.key).Sublist ["viewed", "viewdate"] →
      ((fileParameters f.file ++ [(⟨"state", Text.digits f.storage.number.toNat⟩ : Parameter)] ++
        back).map Parameter.key).Sublist ["size", "ed2k", "state", "viewed", "viewdate"] :=
    fun back hback => ((hback.cons_cons _).cons_cons _).cons_cons _
  unfold filingParameters
  apply hfront
  split
  · cases f.watchedDate
    · exact (List.nil_sublist _).cons_cons _
    · exact List.Sublist.refl _
  · exact List.nil_sublist _

theorem keys_parameters (r : Request) :
    (r.parameters.map Parameter.key).Sublist requestKeys := by
  have hnat : List.Sublist (["nat"] : List Text) requestKeys := by decide
  have hentry : List.Sublist
      (["size", "ed2k", "state", "viewed", "viewdate", "edit"] : List Text) requestKeys := by
    decide
  cases r with
  | auth a => exact keys_authParameters a
  | logout => exact List.nil_sublist _
  | ping nat =>
    cases nat
    · exact List.nil_sublist _
    · exact hnat
  | calendar => exact List.nil_sublist _
  | add f =>
    exact (List.sublist_append_of_sublist_left (keys_filingParameters f)).trans hentry
  | update f =>
    unfold Request.parameters
    rw [List.map_append]
    exact ((keys_filingParameters f).append (List.Sublist.refl _)).trans hentry
  | remove f =>
    have hfile : List.Sublist (["size", "ed2k"] : List Text) requestKeys := by decide
    exact hfile

/-- No name is given to two parameters of a line. -/
theorem nodup_keys (r : Request) (session tag : Option Text) :
    ((r.parameters ++ envelope session tag).map Parameter.key).Nodup := by
  have henvelope : ((envelope session tag).map Parameter.key).Sublist ["s", "tag"] := by
    cases session with
    | none =>
      cases tag with
      | none => exact List.nil_sublist _
      | some t => exact (List.Sublist.refl _).cons _
    | some key =>
      cases tag with
      | none => exact (List.nil_sublist _).cons_cons _
      | some t => exact List.Sublist.refl _
  have hall : (requestKeys ++ (["s", "tag"] : List Text)).Nodup := by decide
  rw [List.map_append]
  exact hall.sublist ((keys_parameters r).append henvelope)

/-- The only parameter with a name is the one that is found under it. -/
theorem find?_key_of_mem {ps : List Parameter} (hps : (ps.map Parameter.key).Nodup) {p : Parameter}
    (hp : p ∈ ps) : ps.find? (·.key = p.key) = some p := by
  induction ps with
  | nil => cases hp
  | cons q ps ih =>
    rw [List.map_cons, List.nodup_cons] at hps
    rcases List.mem_cons.1 hp with rfl | hmem
    · simp
    · have hne : q.key ≠ p.key := fun heq => hps.1 (heq ▸ List.mem_map_of_mem hmem)
      rw [List.find?_cons_of_neg (by simpa using hne)]
      exact ih hps.2 hmem

/-- Both servers recover a command and its tag, whatever its values are: taking the tag out leaves
the line without one; the name, the tag and every parameter are found, a value up to its first
ampersand; and nothing else is found, except under names that begin like the rest of an encoded
ampersand. -/
theorem servers_recover_command (r : Request) (session : Option Text) {t : Text} (ht : '&' ∉ t) :
    let line := r.line session (some t)
    splitTag line = (r.line session none, some (Wire.encode t)) ∧
      name line = r.command ∧
      param? "tag" line = some (Wire.encode t) ∧
      (∀ p ∈ r.parameters ++ envelope session none,
        param? p.key line = some ((Wire.encode p.value).takeWhile (· ≠ '&'))) ∧
      ∀ key : Text, key ≠ "tag" → (∀ p ∈ r.parameters ++ envelope session none, p.key ≠ key) →
        ¬ ("amp;" : Text) <+: key → param? key line = none := by
  intro line
  have hgiven : r.parameters ++ envelope session (some t) =
      (r.parameters ++ envelope session none) ++ [⟨"tag", t⟩] := by
    simp [envelope]
  have hkeys := nodup_keys r session (some t)
  have hfind : ∀ p ∈ r.parameters ++ envelope session (some t),
      param? p.key line = some (shown p.value) := by
    intro p hp
    have hfront : ¬ ("amp;" : Text) <+: p.key := by
      have hnames : ∀ key ∈ lineKeys, ¬ ("amp;" : Text) <+: key := by decide
      exact hnames _ (mem_lineKeys hp)
    rw [param?_line hfront, find?_key_of_mem hkeys hp]
    rfl
  refine ⟨splitTag_line_eq r session ht, name_line r session (some t), ?_, ?_, ?_⟩
  · have htag := hfind ⟨"tag", t⟩ (by simp [hgiven])
    rwa [shown_eq_encode ht] at htag
  · intro p hp
    exact hfind p (hgiven ▸ List.mem_append_left _ hp)
  · intro key htag hother hfront
    have hnone : (r.parameters ++ envelope session (some t)).find? (·.key = key) = none := by
      rw [List.find?_eq_none]
      intro p hp
      rw [hgiven, List.mem_append, List.mem_singleton] at hp
      rcases hp with hp | rfl
      · simpa using hother p hp
      · simpa using htag.symm
    rw [param?_line hfront, hnone]
    rfl

/-- A hash that looks like a tag and a key that looks like a key shadow neither. -/
theorem servers_recover_lookalikes :
    let r := Request.remove ⟨1, "x&tag=t9&s=k"⟩
    let line := r.line (some "&s=") (some "t1")
    splitTag line = (r.line (some "&s=") none, some "t1".toList) ∧
      r.line (some "&s=") none = "MYLISTDEL size=1&ed2k=x&amp;tag=t9&amp;s=k&s=&amp;s=" ∧
      param? "tag" line = some "t1".toList ∧ param? "ed2k" line = some "x".toList ∧
      param? "s" line = some [] ∧ param? "mtu" line = none := by
  intro r line
  obtain ⟨hsplit, -, htag, hparameters, hnone⟩ :=
    servers_recover_command r (some "&s=") (t := "t1") (by decide)
  exact ⟨hsplit, by decide +kernel, htag, hparameters ⟨"ed2k", "x&tag=t9&s=k"⟩ (by decide +kernel),
    hparameters ⟨"s", "&s="⟩ (by decide +kernel),
    hnone "mtu" (by decide) (by decide +kernel) (by decide)⟩

end AnidbClient.CommandLine
