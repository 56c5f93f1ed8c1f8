import AnidbClient.Proofs.Text.Pieces

/-!
# The lines of a text

A line ends at a line feed, at a carriage return and a line feed, or with the text.  `HasLines` says
which lines a text has, and `lines` gives just these (`lines_eq_iff`).  A carriage return that
stands anywhere else is part of its line, also at the end of the text.
-/

namespace AnidbClient.Text

/-- The text has these lines. -/
inductive HasLines : Text → List Text → Prop where
  | nothing : HasLines [] []
  | last {line : Text} (hne : line ≠ []) (hfeed : '\n' ∉ line) : HasLines line [line]
  | feed {line rest : Text} {more : List Text} (hfeed : '\n' ∉ line)
      (hreturn : line.getLast? ≠ some '\r') (hrest : HasLines rest more) :
      HasLines (line ++ '\n' :: rest) (line :: more)
  | returnFeed {line rest : Text} {more : List Text} (hfeed : '\n' ∉ line)
      (hrest : HasLines rest more) : HasLines (line ++ '\r' :: '\n' :: rest) (line :: more)

theorem dropReturn_concat (line : Text) : dropReturn (line ++ ['\r']) = line := by
  simp [dropReturn]

/-- A line feed ends a line, and the lines behind it do not depend on that line. -/
theorem lines_append_feed {line : Text} (hfeed : '\n' ∉ line) (rest : Text) :
    lines (line ++ '\n' :: rest) = dropReturn line :: lines rest := by
  unfold lines
  rw [split_append, split_of_not_mem hfeed, List.singleton_append]
  obtain ⟨piece, pieces, hsplit⟩ :=
    List.exists_cons_of_ne_nil (splitWhen_ne_nil (· == '\n') rest)
  rw [show split '\n' rest = piece :: pieces from hsplit]
  simp [linesOfPieces]

theorem lines_of_not_mem {line : Text} (hne : line ≠ []) (hfeed : '\n' ∉ line) :
    lines line = [line] := by
  unfold lines
  rw [split_of_not_mem hfeed]
  simp [linesOfPieces, hne]

theorem HasLines.lines_eq {s : Text} {all : List Text} (h : HasLines s all) : lines s = all := by
  induction h with
  | nothing => rfl
  | last hne hfeed => exact lines_of_not_mem hne hfeed
  | feed hfeed hreturn _ ih => rw [lines_append_feed hfeed, ih, dropReturn, if_neg hreturn]
  | @returnFeed line rest more hfeed _ ih =>
    have hended : '\n' ∉ line ++ ['\r'] := by simp [hfeed]
    have happend : line ++ '\r' :: '\n' :: rest = (line ++ ['\r']) ++ '\n' :: rest := by simp
    rw [happend, lines_append_feed hended, ih, dropReturn_concat]

/-- Every text has lines: the first one ends at the first line feed, and the text behind it is
shorter. -/
theorem hasLines_lines (s : Text) : HasLines s (lines s) := by
  induction hlength : s.length using Nat.strongRecOn generalizing s with
  | _ n ih =>
    subst hlength
    by_cases hfeed : '\n' ∈ s
    · obtain ⟨line, rest, rfl, hline⟩ := List.eq_append_cons_of_mem hfeed
      have hrest := ih rest.length (by simp; omega) rest rfl
      rw [lines_append_feed hline, dropReturn]
      split
      · rename_i hreturn
        obtain ⟨front, rfl⟩ := List.getLast?_eq_some_iff.1 hreturn
        rw [List.dropLast_concat, List.append_assoc]
        exact .returnFeed (fun hmem => hline (List.mem_append_left _ hmem)) hrest
      · rename_i hreturn
        exact .feed hline hreturn hrest
    · by_cases hnil : s = []
      · subst hnil
        exact .nothing
      · rw [lines_of_not_mem hnil hfeed]
        exact .last hnil hfeed

theorem lines_eq_iff {s : Text} {all : List Text} : lines s = all ↔ HasLines s all := by
  constructor
  · rintro rfl
    exact hasLines_lines s
  · exact HasLines.lines_eq

-- The last line has no end, and so keeps what would be a part of one.
example : HasLines "CALENDAR\n\n1|0|0\r\n2|0|0\r" ["CALENDAR", [], "1|0|0", "2|0|0\r"] :=
  lines_eq_iff.1 (by decide)

end AnidbClient.Text
