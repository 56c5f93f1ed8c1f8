/-!
# Text as a list of characters

Every rule of the wire format and of the settings files recurses on characters, so text is kept
as the list of them.  A string literal is accepted wherever text is expected.

The module holds the cuts that the rules are made of:

* `splitWhen`, `split`: all pieces between separators, at least one;
* `cut?`: the two sides of the first separator;
* `lines`: the lines of a text, without their ends;
* `dropPrefix?`, `replaceAll`: fixed pieces taken off or exchanged.

The lemmas say that cutting loses nothing and that no piece holds its separator.
-/

namespace AnidbClient

/-- Text is the list of its characters. -/
abbrev Text := List Char

instance : Coe String Text := ⟨String.toList⟩

namespace Text

/-! ## Pieces between separators -/

/-- The pieces between the characters that `p` picks, in order; one more than there are such
characters. -/
def splitWhen (p : Char → Bool) : Text → List Text
  | [] => [[]]
  | c :: rest => if p c then [] :: splitWhen p rest else (splitWhen p rest).modifyHead (c :: ·)

/-- The pieces between the occurrences of one separator. -/
def split (sep : Char) (s : Text) : List Text :=
  splitWhen (· == sep) s

/-- The pieces put together again, with `sep` between neighbours. -/
def join (sep : Char) (parts : List Text) : Text :=
  List.intercalate [sep] parts

/-- The two sides of the first `sep`, if there is one. -/
def cut? (sep : Char) : Text → Option (Text × Text)
  | [] => none
  | c :: rest =>
    if c = sep then some ([], rest)
    else (cut? sep rest).map fun (left, right) => (c :: left, right)

theorem splitWhen_cons_of_pos {p : Char → Bool} {c : Char} (h : p c = true) (s : Text) :
    splitWhen p (c :: s) = [] :: splitWhen p s := by
  simp [splitWhen, h]

theorem splitWhen_cons_of_neg {p : Char → Bool} {c : Char} (h : p c = false) (s : Text) :
    splitWhen p (c :: s) = (splitWhen p s).modifyHead (c :: ·) := by
  simp [splitWhen, h]

theorem splitWhen_ne_nil (p : Char → Bool) (s : Text) : splitWhen p s ≠ [] := by
  induction s with
  | nil => simp [splitWhen]
  | cons c rest ih =>
    cases h : p c with
    | true => simp [splitWhen_cons_of_pos h]
    | false =>
      obtain ⟨head, tail, hsplit⟩ := List.exists_cons_of_ne_nil ih
      simp [splitWhen_cons_of_neg h, hsplit]

/-- Cutting at a separator and joining with it gives the text back. -/
theorem join_split (sep : Char) (s : Text) : join sep (split sep s) = s := by
  induction s with
  | nil => simp [join, split, splitWhen]
  | cons c rest ih =>
    obtain ⟨head, tail, hsplit⟩ :=
      List.exists_cons_of_ne_nil (splitWhen_ne_nil (· == sep) rest)
    simp only [join, split, hsplit] at ih
    cases h : c == sep with
    | true =>
      have hc : c = sep := by simpa using h
      rw [join, split, splitWhen_cons_of_pos (p := (· == sep)) h, hsplit,
        List.intercalate_cons_cons, ih]
      simp [hc]
    | false =>
      rw [join, split, splitWhen_cons_of_neg (p := (· == sep)) h, hsplit, List.modifyHead_cons]
      cases tail with
      | nil => simp_all
      | cons next tail => simp_all [List.intercalate_cons_cons]

/-! ## Lines -/

/-- The line without the carriage return that stood before its line feed. -/
def dropReturn (line : Text) : Text :=
  if line.getLast? = some '\r' then line.dropLast else line

/-- The lines among the pieces between line feeds: all but the last piece were ended by a line
feed, and an empty last piece is no line. -/
def linesOfPieces : List Text → List Text
  | [] => []
  | [last] => if last = [] then [] else [last]
  | piece :: rest => dropReturn piece :: linesOfPieces rest

/-- The lines of a text.  A line ends at a line feed, and one carriage return right before it is
not part of the line; a final line feed opens no further line. -/
def lines (s : Text) : List Text :=
  linesOfPieces (split '\n' s)

/-- The first line, empty when there is none. -/
def firstLine (s : Text) : Text :=
  (lines s).headD []

/-! ## Fixed pieces -/

/-- What follows the given piece at the start of a text. -/
def dropPrefix? : Text → Text → Option Text
  | [], s => some s
  | _ :: _, [] => none
  | p :: piece, c :: s => if p = c then dropPrefix? piece s else none

theorem dropPrefix?_eq_some_iff {piece s rest : Text} :
    dropPrefix? piece s = some rest ↔ s = piece ++ rest := by
  induction piece generalizing s with
  | nil => simp [dropPrefix?]
  | cons p piece ih =>
    cases s with
    | nil => simp [dropPrefix?]
    | cons c s => by_cases h : p = c <;> simp [dropPrefix?, h, ih, Ne.symm]

/-- The text with every occurrence of `old` exchanged for `new`, from left to right and without
overlap; the number says how many characters of the last occurrence are still to be passed. -/
def replaceFrom (old new : Text) : Nat → Text → Text
  | _, [] => []
  | skip + 1, _ :: rest => replaceFrom old new skip rest
  | 0, c :: rest =>
    if old.isPrefixOf (c :: rest) then new ++ replaceFrom old new (old.length - 1) rest
    else c :: replaceFrom old new 0 rest

/-- The text with every occurrence of the non-empty `old` exchanged for `new`. -/
def replaceAll (old new : Text) (s : Text) : Text :=
  replaceFrom old new 0 s

end Text

end AnidbClient
