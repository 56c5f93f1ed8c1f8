import AnidbClient.Proofs.CommandLine.Parameters
import AnidbClient.Proofs.Text.Numeral
import Mathlib.Data.List.TakeWhile

/-!
# Looking a parameter up

A server that cuts a line at every ampersand also cuts values, at the ampersands that are written in
them.  What stands behind such an ampersand begins with `amp;`, as no parameter of a command does.
So a parameter is found under its name, with its value up to the first ampersand in it, and no value
is taken for a parameter (`param?_line`).
-/

namespace AnidbClient

namespace CommandLine

open Request

/-! ## Pieces of values -/

/-- A value as it is sent, up to its first ampersand. -/
def shown (value : Text) : Text :=
  (Wire.encode value).takeWhile (· ≠ '&')

/-- A value without ampersands is shown as it is sent. -/
theorem shown_eq_encode {value : Text} (hvalue : '&' ∉ value) :
    shown value = Wire.encode value := by
  refine List.takeWhile_eq_self_iff.2 fun c hc => ?_
  have hne : c ≠ '&' := by
    rintro rfl
    exact Wire.not_mem_encode hvalue hc
  simpa using hne

/-- A number is sent as it is written, and found so. -/
theorem shown_signedDigits (i : Int) : shown (Text.signedDigits i) = Text.signedDigits i := by
  have hplain := Text.eq_false_of_mem_signedDigits
    (p := fun c => c == '&' || (c == '\n' || c == '\r')) (by decide) (by decide) i
  rw [shown_eq_encode, Wire.encode_eq_self]
  · intro c hc
    simpa using hplain c hc
  · intro hmem
    cases hplain _ hmem

theorem shown_digits (n : Nat) : shown (Text.digits n) = Text.digits n :=
  shown_signedDigits n

/-- What is cut off a value begins like the rest of an encoded ampersand. -/
theorem split_encode (value : Text) :
    ∃ cut, Text.split '&' (Wire.encode value) = shown value :: cut ∧
      ∀ piece ∈ cut, ("amp;" : Text) <+: piece := by
  induction value with
  | nil => exact ⟨[], rfl, by simp⟩
  | cons c value ih =>
    obtain ⟨cut, hcut, hpieces⟩ := ih
    show ∃ cut, Text.split '&' (Wire.encodeChar c ++ Wire.encode value) =
      (Wire.encodeChar c ++ Wire.encode value).takeWhile (· ≠ '&') :: cut ∧ _
    by_cases hc : c = '&'
    · subst hc
      refine ⟨("amp;" ++ shown value) :: cut, ?_, ?_⟩
      · show Text.split '&' ([] ++ '&' :: ("amp;".toList ++ Wire.encode value)) = _
        rw [Text.split_append, Text.split_append_of_not_mem (by decide), hcut]
        rfl
      · exact List.forall_mem_cons.2 ⟨List.prefix_append _ _, hpieces⟩
    · have hchar := Wire.not_mem_encodeChar hc
      have hkept : ∀ d ∈ Wire.encodeChar c, decide (d ≠ '&') = true := by
        intro d hd
        have hne : d ≠ '&' := by
          rintro rfl
          exact hchar hd
        simpa using hne
      refine ⟨cut, ?_, hpieces⟩
      rw [Text.split_append_of_not_mem hchar, hcut, List.takeWhile_append_of_pos hkept]
      rfl

/-! ## Looking up -/

/-- The value of a piece that has the name. -/
def valueOf? (key piece : Text) : Option Text :=
  (Text.cut? '=' piece).bind fun (k, value) => if k = key then some value else none

variable {key : Text}

theorem valueOf?_parameter {name : Text} (hname : IsKey name) (value : Text) :
    valueOf? key (name ++ '=' :: value) = if name = key then some value else none := by
  have hequals : '=' ∉ name := fun hmem => (hname _ hmem).2.2 rfl
  unfold valueOf?
  rw [Text.cut?_append hequals]
  rfl

/-- What is cut off a value is found under no other name than one that begins as it does. -/
theorem valueOf?_cutOff (hkey : ¬ ("amp;" : Text) <+: key) {piece : Text}
    (hpiece : ("amp;" : Text) <+: piece) : valueOf? key piece = none := by
  obtain ⟨rest, rfl⟩ := hpiece
  have hcut : Text.cut? '=' ("amp;".toList ++ rest) =
      (Text.cut? '=' rest).map fun (left, right) => ("amp;".toList ++ left, right) := by
    simp [Text.cut?, Function.comp_def]
  unfold valueOf?
  rw [hcut]
  cases Text.cut? '=' rest with
  | none => rfl
  | some sides =>
    refine if_neg ?_
    rintro rfl
    exact hkey (List.prefix_append _ _)

theorem findSome?_parameterText (hkey : ¬ ("amp;" : Text) <+: key) {p : Parameter}
    (hname : IsKey p.key) :
    (Text.split '&' (parameterText p)).findSome? (valueOf? key) =
      if p.key = key then some (shown p.value) else none := by
  obtain ⟨cut, hcut, hpieces⟩ := split_encode p.value
  have hnone : cut.findSome? (valueOf? key) = none := by
    rw [List.findSome?_eq_none_iff]
    exact fun piece hpiece => valueOf?_cutOff hkey (hpieces piece hpiece)
  rw [parameterText_eq_append, Text.split_append_of_not_mem hname.not_mem_front, hcut]
  rw [List.modifyHead_cons, List.append_assoc, List.singleton_append, List.findSome?_cons,
    valueOf?_parameter hname, hnone]
  by_cases hp : p.key = key <;> simp [hp]

/-- A parameter is found under its name, with its value up to the first ampersand in it. -/
theorem param?_line (hkey : ¬ ("amp;" : Text) <+: key) (r : Request) (session tag : Option Text) :
    param? key (r.line session tag) =
      ((r.parameters ++ envelope session tag).find? (·.key = key)).map fun p => shown p.value := by
  have hnames : ∀ p ∈ r.parameters ++ envelope session tag, IsKey p.key :=
    fun _ hp => isKey_of_mem hp
  unfold param? pieces? line lineOf
  generalize r.parameters ++ envelope session tag = ps at hnames
  by_cases hnone : ps = []
  · have hcut : Text.cut? ' ' r.command = none := by
      cases r <;> rfl
    rw [hnone, List.map_nil, if_pos rfl, hcut]
    rfl
  · have hsome : ps.map parameterText ≠ [] := by simpa using hnone
    rw [if_neg hsome, Text.cut?_append r.not_mem_command]
    show (Text.split '&' (Text.join '&' (ps.map parameterText))).findSome? (valueOf? key) = _
    rw [Text.split_join_eq_flatMap '&' hsome]
    clear hnone hsome
    induction ps with
    | nil => rfl
    | cons p ps ih =>
      rw [List.map_cons, List.flatMap_cons, List.findSome?_append,
        findSome?_parameterText hkey (hnames p List.mem_cons_self),
        ih fun q hq => hnames q (List.mem_cons_of_mem p hq)]
      by_cases hp : p.key = key <;> simp [hp]

end CommandLine

end AnidbClient
