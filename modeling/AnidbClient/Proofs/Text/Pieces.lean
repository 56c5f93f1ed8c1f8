import AnidbClient.Text.Blank
import Mathlib.Data.List.TakeWhile

/-!
# Pieces of a text

Texts that were joined with separators are cut into the same pieces again, if no piece holds a
separator (`splitWhen_join`).  That covers fields, words and lines: `split_join`, `words_join` and
`lines_join`.

What is taken off the end of a text ends at the last character that stays
(`trimRightWhen_append`).

An exchange of characters that leaves separators and blanks what they are can be made before a text
is cut as well as after (`splitWhen_map`, `trim_map`).
-/

namespace AnidbClient.Text

/-- A closed text is checked character by character. -/
theorem eq_false_of_any {p : Char → Bool} {s : Text} (h : s.any p = false) :
    ∀ c ∈ s, p c = false := by
  intro c hc
  exact Bool.eq_false_iff.2 (List.any_eq_false.1 h c hc)

/-! ## Cutting -/

theorem cut?_append {sep : Char} {left : Text} (hleft : sep ∉ left) (right : Text) :
    cut? sep (left ++ sep :: right) = some (left, right) := by
  induction left with
  | nil => simp [cut?]
  | cons c left ih =>
    rw [List.mem_cons, not_or] at hleft
    have hc : c ≠ sep := fun heq => hleft.1 heq.symm
    rw [List.cons_append, cut?, if_neg hc, ih hleft.2]
    rfl

theorem splitWhen_append {p : Char → Bool} {s : Text} (hs : ∀ c ∈ s, p c = false) {sep : Char}
    (hsep : p sep = true) (rest : Text) :
    splitWhen p (s ++ sep :: rest) = s :: splitWhen p rest := by
  induction s with
  | nil => exact splitWhen_cons_of_pos hsep rest
  | cons c s ih =>
    rw [List.cons_append, splitWhen_cons_of_neg (hs c List.mem_cons_self),
      ih fun d hd => hs d (List.mem_cons_of_mem c hd)]
    rfl

theorem splitWhen_of_none {p : Char → Bool} {s : Text} (hs : ∀ c ∈ s, p c = false) :
    splitWhen p s = [s] := by
  induction s with
  | nil => rfl
  | cons c s ih =>
    rw [splitWhen_cons_of_neg (hs c List.mem_cons_self),
      ih fun d hd => hs d (List.mem_cons_of_mem c hd)]
    rfl

theorem split_of_not_mem {sep : Char} {s : Text} (hs : sep ∉ s) : split sep s = [s] := by
  apply splitWhen_of_none
  rintro c hc
  have hne : c ≠ sep := by
    rintro rfl
    exact hs hc
  simpa using hne

/-- The pieces before and behind a separator are told apart. -/
theorem split_append (sep : Char) (s rest : Text) :
    split sep (s ++ sep :: rest) = split sep s ++ split sep rest := by
  unfold split
  induction s with
  | nil => simp [splitWhen]
  | cons c s ih =>
    cases hc : c == sep with
    | true =>
      rw [List.cons_append, splitWhen_cons_of_pos (p := (· == sep)) hc,
        splitWhen_cons_of_pos (p := (· == sep)) hc, ih, List.cons_append]
    | false =>
      obtain ⟨head, tail, hsplit⟩ := List.exists_cons_of_ne_nil (splitWhen_ne_nil (· == sep) s)
      rw [List.cons_append, splitWhen_cons_of_neg (p := (· == sep)) hc,
        splitWhen_cons_of_neg (p := (· == sep)) hc, ih, hsplit]
      rfl

theorem split_append_of_not_mem {sep : Char} {s : Text} (hs : sep ∉ s) (rest : Text) :
    split sep (s ++ rest) = (split sep rest).modifyHead (s ++ ·) := by
  unfold split
  induction s with
  | nil => cases h : splitWhen (· == sep) rest <;> simp [h]
  | cons c s ih =>
    rw [List.mem_cons, not_or] at hs
    rw [List.cons_append, splitWhen_cons_of_neg (by simpa using Ne.symm hs.1), ih hs.2,
      List.modifyHead_modifyHead]
    rfl

theorem join_concat (sep : Char) {parts : List Text} (hparts : parts ≠ []) (last : Text) :
    join sep (parts ++ [last]) = join sep parts ++ sep :: last := by
  unfold join
  induction parts with
  | nil => exact absurd rfl hparts
  | cons first parts ih =>
    cases parts with
    | nil => simp [List.intercalate_cons_cons]
    | cons second parts =>
      have hrest := ih (by simp)
      rw [List.cons_append, List.cons_append, List.intercalate_cons_cons, ← List.cons_append,
        hrest, List.intercalate_cons_cons]
      simp

/-- The last of the pieces that were joined is still the last one, if nothing cuts it. -/
theorem exists_split_join_concat (sep : Char) (parts : List Text) {last : Text}
    (hlast : sep ∉ last) : ∃ pieces, split sep (join sep (parts ++ [last])) = pieces ++ [last] := by
  by_cases hparts : parts = []
  · refine ⟨[], ?_⟩
    rw [hparts, List.nil_append]
    have hjoin : join sep [last] = last := by simp [join]
    rw [hjoin]
    exact split_of_not_mem hlast
  · refine ⟨split sep (join sep parts), ?_⟩
    rw [join_concat sep hparts, split_append, split_of_not_mem hlast]

/-! ## Joining -/

theorem mem_join {sep c : Char} {parts : List Text} (hc : c ∈ join sep parts) :
    c = sep ∨ ∃ part ∈ parts, c ∈ part := by
  unfold join at hc
  induction parts with
  | nil => cases hc
  | cons first rest ih =>
    cases rest with
    | nil =>
      rw [List.intercalate_singleton] at hc
      exact .inr ⟨first, List.mem_cons_self, hc⟩
    | cons second rest =>
      rw [List.intercalate_cons_cons, List.append_assoc, List.mem_append, List.mem_append,
        List.mem_singleton] at hc
      rcases hc with hc | rfl | hc
      · exact .inr ⟨first, List.mem_cons_self, hc⟩
      · exact .inl rfl
      · obtain hsep | ⟨part, hpart, hmem⟩ := ih hc
        · exact .inl hsep
        · exact .inr ⟨part, List.mem_cons_of_mem first hpart, hmem⟩

@[simp] theorem join_singleton (sep : Char) (s : Text) : join sep [s] = s :=
  List.intercalate_singleton

theorem join_cons (sep : Char) (first : Text) {parts : List Text} (hparts : parts ≠ []) :
    join sep (first :: parts) = first ++ sep :: join sep parts := by
  obtain ⟨second, rest, rfl⟩ := List.exists_cons_of_ne_nil hparts
  simp [join, List.intercalate_cons_cons]

/-- The first piece, and the others with a separator in front of each. -/
theorem join_cons_eq_flatMap (sep : Char) (first : Text) (parts : List Text) :
    join sep (first :: parts) = first ++ parts.flatMap (sep :: ·) := by
  induction parts generalizing first with
  | nil => simp [join]
  | cons second rest ih =>
    rw [join_cons sep first (by simp), ih second]
    rfl

/-- Pieces that were joined are cut where they were joined, and within. -/
theorem split_join_eq_flatMap (sep : Char) {parts : List Text} (hne : parts ≠ []) :
    split sep (join sep parts) = parts.flatMap (split sep) := by
  induction parts with
  | nil => exact absurd rfl hne
  | cons first parts ih =>
    by_cases hparts : parts = []
    · rw [hparts, join_singleton]
      simp
    · rw [join_cons sep first hparts, split_append, ih hparts, List.flatMap_cons]

/-- What was joined is cut into the same pieces again. -/
theorem splitWhen_join {p : Char → Bool} {sep : Char} (hsep : p sep = true) {parts : List Text}
    (hparts : ∀ part ∈ parts, ∀ c ∈ part, p c = false) (hne : parts ≠ []) :
    splitWhen p (join sep parts) = parts := by
  induction parts with
  | nil => exact absurd rfl hne
  | cons first parts ih =>
    have hfirst := hparts first List.mem_cons_self
    by_cases hnil : parts = []
    · rw [hnil, join_singleton]
      exact splitWhen_of_none hfirst
    · rw [join_cons sep first hnil, splitWhen_append hfirst hsep,
        ih (fun part hpart => hparts part (List.mem_cons_of_mem first hpart)) hnil]

theorem split_join {sep : Char} {parts : List Text} (hparts : ∀ part ∈ parts, sep ∉ part)
    (hne : parts ≠ []) : split sep (join sep parts) = parts := by
  refine splitWhen_join (by simp) ?_ hne
  rintro part hpart c hc
  have hsep : c ≠ sep := by
    rintro rfl
    exact hparts part hpart hc
  simpa using hsep

/-- Words with one blank between neighbours are the words of the text. -/
theorem words_join {parts : List Text}
    (hparts : ∀ part ∈ parts, part ≠ [] ∧ ∀ c ∈ part, isBlank c = false) (hne : parts ≠ []) :
    words (join ' ' parts) = parts := by
  unfold words
  rw [splitWhen_join (by decide) (fun part hpart => (hparts part hpart).2) hne,
    List.filter_eq_self]
  intro part hpart
  simpa using (hparts part hpart).1

/-! ## Lines -/

/-- A text that is one line, without its end. -/
structure IsLine (s : Text) : Prop where
  ne_nil : s ≠ []
  no_feed : '\n' ∉ s
  no_return : '\r' ∉ s

theorem isLine_join {sep : Char} (hfeed : sep ≠ '\n') (hreturn : sep ≠ '\r') {first : Text}
    {parts : List Text} (hfirst : first ≠ [])
    (hparts : ∀ part ∈ first :: parts, '\n' ∉ part ∧ '\r' ∉ part) :
    IsLine (join sep (first :: parts)) where
  ne_nil := by
    rw [join_cons_eq_flatMap]
    exact List.append_ne_nil_of_left_ne_nil hfirst _
  no_feed hmem := by
    rcases mem_join hmem with hsep | ⟨part, hpart, hmem⟩
    · exact hfeed hsep.symm
    · exact (hparts part hpart).1 hmem
  no_return hmem := by
    rcases mem_join hmem with hsep | ⟨part, hpart, hmem⟩
    · exact hreturn hsep.symm
    · exact (hparts part hpart).2 hmem

theorem dropReturn_of_not_mem {line : Text} (hline : '\r' ∉ line) : dropReturn line = line := by
  unfold dropReturn
  rw [if_neg]
  exact fun hlast => hline (List.mem_of_getLast? hlast)

theorem linesOfPieces_eq_self {pieces : List Text} (hpieces : ∀ piece ∈ pieces, IsLine piece) :
    linesOfPieces pieces = pieces := by
  induction pieces with
  | nil => rfl
  | cons first pieces ih =>
    have hfirst := hpieces first List.mem_cons_self
    cases pieces with
    | nil =>
      unfold linesOfPieces
      exact if_neg hfirst.ne_nil
    | cons second rest =>
      rw [linesOfPieces, dropReturn_of_not_mem hfirst.no_return,
        ih fun piece hpiece => hpieces piece (List.mem_cons_of_mem first hpiece)]
      simp

/-- Lines with a line feed between neighbours are the lines of the text. -/
theorem lines_join {parts : List Text} (hparts : ∀ part ∈ parts, IsLine part) (hne : parts ≠ []) :
    lines (join '\n' parts) = parts := by
  unfold lines
  rw [split_join (fun part hpart => (hparts part hpart).no_feed) hne]
  exact linesOfPieces_eq_self hparts

theorem firstLine_eq_self {s : Text} (hs : IsLine s) : firstLine s = s := by
  have hlines : lines (join '\n' [s]) = [s] :=
    lines_join (List.forall_mem_singleton.2 hs) (by simp)
  rw [join_singleton] at hlines
  unfold firstLine
  rw [hlines]
  rfl

/-! ## Trimming -/

/-- Characters are taken off the end up to the last one that stays. -/
theorem trimRightWhen_append {p : Char → Bool} {c : Char} (hc : p c = false) (s rest : Text) :
    trimRightWhen p (s ++ c :: rest) = s ++ c :: trimRightWhen p rest := by
  unfold trimRightWhen
  have hdrop : ∀ tail : Text, (tail ++ c :: s.reverse).dropWhile p =
      tail.dropWhile p ++ c :: s.reverse := by
    intro tail
    induction tail with
    | nil => simp [hc]
    | cons d tail ih =>
      by_cases hd : p d = true
      · simp [hd, ih]
      · simp [hd]
  have hreverse : (s ++ c :: rest).reverse = rest.reverse ++ c :: s.reverse := by simp
  rw [hreverse, hdrop]
  simp

theorem trimRightWhen_prefix (p : Char → Bool) (s : Text) : trimRightWhen p s <+: s := by
  unfold trimRightWhen
  rw [← List.reverse_suffix, List.reverse_reverse]
  exact List.dropWhile_suffix p

theorem trimRightWhen_eq_self {p : Char → Bool} {s : Text} (hs : ∀ c ∈ s, p c = false) :
    trimRightWhen p s = s := by
  rcases List.eq_nil_or_concat s with rfl | ⟨front, last, rfl⟩
  · rfl
  · rw [List.concat_eq_append] at hs ⊢
    exact trimRightWhen_append (hs last (by simp)) front []

/-- The last piece stays as it is if it holds nothing that is taken off. -/
theorem trimRightWhen_append_self {p : Char → Bool} {last : Text} (hne : last ≠ [])
    (hlast : ∀ c ∈ last, p c = false) (s : Text) : trimRightWhen p (s ++ last) = s ++ last := by
  obtain ⟨front, c, rfl⟩ := (List.eq_nil_or_concat last).resolve_left hne
  rw [List.concat_eq_append] at hlast ⊢
  rw [← List.append_assoc]
  exact trimRightWhen_append (hlast c (by simp)) (s ++ front) []

theorem trimRightWhen_concat {p : Char → Bool} {c : Char} (hc : p c = true) (s : Text) :
    trimRightWhen p (s ++ [c]) = trimRightWhen p s := by
  unfold trimRightWhen
  rw [List.reverse_append, List.reverse_singleton, List.singleton_append,
    List.dropWhile_cons_of_pos hc]

theorem trim_eq_self {s : Text} (hs : ∀ c ∈ s, isBlank c = false) : trim s = s := by
  unfold trim
  have hdrop : s.dropWhile isBlank = s := by
    cases s with
    | nil => rfl
    | cons c rest => exact List.dropWhile_cons_of_neg (by simp [hs c List.mem_cons_self])
  rw [hdrop]
  exact trimRightWhen_eq_self hs

theorem trim_eq_nil_iff {s : Text} : trim s = [] ↔ ∀ c ∈ s, isBlank c = true := by
  unfold trim trimRightWhen
  rw [List.reverse_eq_nil_iff, List.dropWhile_eq_nil_iff]
  constructor
  · intro hrest c hc
    rw [← List.takeWhile_append_dropWhile (p := isBlank) (l := s), List.mem_append] at hc
    rcases hc with hfront | hback
    · exact List.mem_takeWhile_imp hfront
    · exact hrest c (List.mem_reverse.2 hback)
  · intro hblank c hc
    exact hblank c ((List.dropWhile_sublist _).subset (List.mem_reverse.1 hc))

/-! ## Texts whose characters are exchanged -/

section Map

variable {f : Char → Char}

theorem splitWhen_map (p : Char → Bool) (s : Text) :
    splitWhen p (s.map f) = (splitWhen (p ∘ f) s).map (List.map f) := by
  induction s with
  | nil => rfl
  | cons c s ih =>
    obtain ⟨first, parts, hsplit⟩ := List.exists_cons_of_ne_nil (splitWhen_ne_nil (p ∘ f) s)
    cases hc : p (f c) <;> simp [splitWhen, hc, ih, hsplit]

theorem trim_map (hf : ∀ c, isBlank (f c) = isBlank c) (s : Text) :
    trim (s.map f) = (trim s).map f := by
  have hblank : isBlank ∘ f = isBlank := funext hf
  unfold trim trimRightWhen
  rw [List.dropWhile_map, hblank, ← List.map_reverse, List.dropWhile_map, hblank,
    List.map_reverse]

end Map

end AnidbClient.Text
