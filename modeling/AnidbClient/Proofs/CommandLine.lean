import AnidbClient.CommandLine
import AnidbClient.Proofs.Text.Pieces
import AnidbClient.Request.Line

/-!
# The tag of a command line

Whatever the values of a command are, the server finds the tag that the client put behind them
(`splitTag_line`): the tag is the last parameter, so the last piece between ampersands is its, even
where an encoded ampersand cuts a value in two.
-/

namespace AnidbClient

theorem Wire.not_mem_encodeChar {c : Char} (hc : c ≠ '&') : '&' ∉ Wire.encodeChar c := by
  unfold Wire.encodeChar
  rw [if_neg hc]
  split
  · decide
  · split
    · exact List.not_mem_nil
    · exact fun hmem => hc (List.mem_singleton.1 hmem).symm

theorem Wire.not_mem_encode {v : Text} (hv : '&' ∉ v) : '&' ∉ Wire.encode v := by
  intro hmem
  obtain ⟨c, hc, hmem⟩ := List.mem_flatMap.1 hmem
  have hne : c ≠ '&' := by
    rintro rfl
    exact hv hc
  exact Wire.not_mem_encodeChar hne hmem

theorem Wire.encode_eq_self {v : Text} (hv : ∀ c ∈ v, c ≠ '&' ∧ c ≠ '\n' ∧ c ≠ '\r') :
    Wire.encode v = v := by
  induction v with
  | nil => rfl
  | cons c v ih =>
    show Wire.encodeChar c ++ Wire.encode v = _
    rw [Wire.encodeChar_eq_self (hv c List.mem_cons_self),
      ih fun d hd => hv d (List.mem_cons_of_mem c hd)]
    rfl

/-! ## Lines -/

/-- The names of all commands. -/
def Request.commands : List Text :=
  ["AUTH", "LOGOUT", "PING", "CALENDAR", "MYLISTADD", "MYLISTDEL"]

theorem Request.mem_commands (r : Request) : r.command ∈ commands := by
  cases r with
  | auth _ => exact .head _
  | logout => exact .tail _ (.head _)
  | ping _ => exact .tail _ (.tail _ (.head _))
  | calendar => exact .tail _ (.tail _ (.tail _ (.head _)))
  | add _ => exact .tail _ (.tail _ (.tail _ (.tail _ (.head _))))
  | update _ => exact .tail _ (.tail _ (.tail _ (.tail _ (.head _))))
  | remove _ => exact .tail _ (.tail _ (.tail _ (.tail _ (.tail _ (.head _)))))

theorem Request.not_mem_command (r : Request) : ' ' ∉ r.command := by
  have hnames : ∀ name ∈ commands, ' ' ∉ name := by decide
  exact hnames _ r.mem_commands

namespace CommandLine

open Request

theorem line_tagged (r : Request) (key : Option Text) (t : Text) :
    r.line key (some t) = r.command ++ ' ' :: Text.join '&'
      ((r.parameters ++ key.toList.map fun k => (⟨"s", k⟩ : Parameter)).map parameterText ++
        ["tag=" ++ Wire.encode t]) := by
  unfold line lineOf
  have hparts : (r.parameters ++ envelope key (some t)).map parameterText =
      (r.parameters ++ key.toList.map fun k => (⟨"s", k⟩ : Parameter)).map parameterText ++
        ["tag=" ++ Wire.encode t] := by
    unfold envelope
    rw [← List.append_assoc, List.map_append]
    rfl
  rw [hparts, if_neg (by simp)]

/-- The server finds the tag of every line of a client. -/
theorem splitTag_line (r : Request) (key : Option Text) {t : Text} (ht : '&' ∉ t) :
    (splitTag (r.line key (some t))).2 = some (Wire.encode t) := by
  have hlast : '&' ∉ "tag=" ++ Wire.encode t := by
    rw [List.mem_append, not_or]
    exact ⟨by decide, Wire.not_mem_encode ht⟩
  obtain ⟨pieces, hpieces⟩ := Text.exists_split_join_concat '&'
    ((r.parameters ++ key.toList.map fun k => (⟨"s", k⟩ : Parameter)).map parameterText) hlast
  have htag : tagOf? ("tag=" ++ Wire.encode t) = some (Wire.encode t) :=
    Text.dropPrefix?_eq_some_iff.2 rfl
  unfold splitTag
  rw [line_tagged, Text.cut?_append r.not_mem_command]
  dsimp only
  rw [hpieces, List.filterMap_append, List.filterMap_cons_some htag, List.filterMap_nil,
    List.getLast?_concat]

end CommandLine

end AnidbClient
