import AnidbClient.Proofs.CommandLine.Parameters
import AnidbClient.Proofs.Reply
import Mathlib.Data.List.TakeWhile

/-!
# Command lines can be read in one way only

Values are arbitrary text, and still nothing in a value can pass for something else in the line.

* No line end survives the encoding, so a command is one line (`isLineEnd_line`).
* A reader that cuts at the ampersands which begin no encoded one finds the parameters that were
  put in, in order, each with its name and its encoded value (`readParameters_line`).
* A line that fits into a packet is read back from its bytes unchanged.

`line_unambiguous` puts the three together.
-/

namespace AnidbClient

/-! ## Line ends -/

/-- A line feed of a value is written otherwise, and a carriage return is left out. -/
theorem Wire.isLineEnd_encode (v : Text) : ∀ c ∈ Wire.encode v, isLineEnd c = false := by
  intro c hc
  obtain ⟨d, -, hc⟩ := List.mem_flatMap.1 hc
  have hampersand : ∀ c ∈ encodedAmpersand, isLineEnd c = false :=
    Text.eq_false_of_any (by decide)
  have hnewline : ∀ c ∈ encodedNewline, isLineEnd c = false :=
    Text.eq_false_of_any (by decide)
  unfold encodeChar at hc
  split at hc
  · exact hampersand c hc
  · split at hc
    · exact hnewline c hc
    · rename_i hfeed
      split at hc
      · cases hc
      · rename_i hreturn
        obtain rfl := List.mem_singleton.1 hc
        simp [isLineEnd, hfeed, hreturn]

namespace CommandLine

open Request

theorem isLineEnd_parameterText {r : Request} {key tag : Option Text} {p : Parameter}
    (hp : p ∈ r.parameters ++ envelope key tag) :
    ∀ c ∈ parameterText p, Wire.isLineEnd c = false := by
  have hkeys : ∀ k ∈ lineKeys, k.any Wire.isLineEnd = false := by decide
  intro c hc
  rw [parameterText, List.mem_append, List.mem_cons] at hc
  rcases hc with hc | rfl | hc
  · exact Text.eq_false_of_any (hkeys _ (mem_lineKeys hp)) c hc
  · rfl
  · exact Wire.isLineEnd_encode p.value c hc

/-- A command is one line, whatever its values are. -/
theorem isLineEnd_line (r : Request) (key tag : Option Text) :
    ∀ c ∈ r.line key tag, Wire.isLineEnd c = false := by
  have hnames : ∀ name ∈ commands, name.any Wire.isLineEnd = false := by decide
  have hname := Text.eq_false_of_any (hnames _ r.mem_commands)
  intro c hc
  unfold line lineOf at hc
  split at hc
  · exact hname c hc
  · rw [List.mem_append, List.mem_cons] at hc
    rcases hc with hc | rfl | hc
    · exact hname c hc
    · rfl
    · rcases Text.mem_join hc with rfl | ⟨part, hpart, hmem⟩
      · rfl
      · obtain ⟨p, hp, rfl⟩ := List.mem_map.1 hpart
        exact isLineEnd_parameterText hp c hmem

/-! ## Names and values -/

/-- The parameters of a line, each cut at its first equals sign. -/
def readParameters (line : Text) : List (Option (Text × Text)) :=
  (parameters line).map (Text.cut? '=')

/-- The names and the encoded values are found as they were put in. -/
theorem readParameters_line (r : Request) (key tag : Option Text) :
    readParameters (r.line key tag) =
      (r.parameters ++ envelope key tag).map fun p => some (p.key, Wire.encode p.value) := by
  unfold readParameters
  rw [parameters_line, List.map_map]
  apply List.map_congr_left
  intro p hp
  have hkey : '=' ∉ p.key := fun hmem => (isKey_of_mem hp _ hmem).2.2 rfl
  exact Text.cut?_append hkey (Wire.encode p.value)

theorem name_line (r : Request) (key tag : Option Text) : name (r.line key tag) = r.command := by
  have hnames : ∀ name ∈ commands, name.all (· != ' ') = true := by decide
  have hname := List.all_eq_true.1 (hnames _ r.mem_commands)
  unfold name line lineOf
  split
  · exact List.takeWhile_eq_self_iff.2 hname
  · rw [List.takeWhile_append_of_pos hname]
    simp

/-! ## The whole line -/

theorem line_ne_nil (r : Request) (key tag : Option Text) : r.line key tag ≠ [] := by
  intro hnil
  have hnames : ([] : Text) ∉ commands := by decide
  have hempty : name [] = r.command := hnil ▸ name_line r key tag
  exact hnames (show name [] ∈ commands from hempty ▸ r.mem_commands)

/-- Whatever stands in its values, a command is a single line that says which command it is and
which parameters it has, in which order and with which encoded values, and nothing else; other
requests have the same line only if they say the same.  It goes through a packet unchanged if it
fits into one, and is refused with its size if it does not. -/
theorem line_unambiguous (r : Request) (key tag : Option Text) :
    let line := r.line key tag
    let given := r.parameters ++ envelope key tag
    '\n' ∉ line ∧ '\r' ∉ line ∧
      (if given = [] then line = r.command
        else ∃ rest, line = r.command ++ ' ' :: rest ∧
          splitParameters rest = given.map fun p => p.key ++ '=' :: Wire.encode p.value) ∧
      name line = r.command ∧
      readParameters line = given.map (fun p => some (p.key, Wire.encode p.value)) ∧
      (∀ r' key' tag', Request.line r' key' tag' = line → r'.command = r.command ∧
        (r'.parameters ++ envelope key' tag').map (fun p => (p.key, Wire.encode p.value)) =
          given.map fun p => (p.key, Wire.encode p.value)) ∧
      if (Text.Utf8.encode line).length ≤ 1400 then
        ∃ bytes, Wire.pack line = .ok bytes ∧ Wire.unpack bytes = .ok line
      else Wire.pack line = .error (.packetTooLarge (Text.Utf8.encode line).length 1400) := by
  intro line given
  have hends : ∀ c ∈ line, Wire.isLineEnd c = false := isLineEnd_line r key tag
  have hread : readParameters line = given.map fun p => some (p.key, Wire.encode p.value) :=
    readParameters_line r key tag
  refine ⟨?_, ?_, ?_, name_line r key tag, hread, ?_, ?_⟩
  · intro hmem
    cases hends _ hmem
  · intro hmem
    cases hends _ hmem
  · split
    · rename_i hnone
      show lineOf r.command (given.map parameterText) = _
      rw [hnone]
      rfl
    · rename_i hsome
      refine ⟨Text.join '&' (given.map parameterText), ?_, ?_⟩
      · show lineOf r.command (given.map parameterText) = _
        unfold lineOf
        rw [if_neg (by simpa using hsome)]
      · exact splitParameters_join hsome fun p hp => isKey_of_mem hp
  · intro r' key' tag' hsame
    have hname' := name_line r' key' tag'
    have hread' := readParameters_line r' key' tag'
    rw [hsame] at hname' hread'
    refine ⟨hname'.symm.trans (name_line r key tag), ?_⟩
    rw [← List.map_inj_right fun _ _ => Option.some.inj, List.map_map, List.map_map]
    exact hread'.symm.trans hread
  · have hnil : line ≠ [] := line_ne_nil r key tag
    unfold Wire.pack
    rw [if_neg hnil]
    dsimp only
    split
    · rename_i hfits
      refine ⟨Text.Utf8.encode line, if_neg (Nat.not_lt.2 hfits), ?_⟩
      rw [Wire.unpack_encode hnil, Text.trimRightWhen_eq_self hends]
    · rename_i hlong
      exact if_pos (Nat.lt_of_not_le hlong)

-- A hash that looks like a tag is still the hash, and a key that looks like a key is one value.
example : parameters (Request.line (.remove ⟨1, "x&tag=t9"⟩) (some "&s=") (some "t1")) =
    (["size=1", "ed2k=x&amp;tag=t9", "s=&amp;s=", "tag=t1"] : List Text) := by
  decide +kernel

end CommandLine

end AnidbClient
