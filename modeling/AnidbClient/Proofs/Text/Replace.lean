import AnidbClient.Text
import Mathlib.Data.List.Infix

/-!
# Exchanging fixed pieces

`replaceAll` passes a text once, from left to right.  An occurrence in front is exchanged
(`replaceAll_append_self`), and a character that starts none stays (`replaceAll_cons_of_not_front`).

A piece whose first character stands nowhere else in it cannot overlap itself.  For such a piece
`replaceAll` does what its name says: between the occurrences nothing happens, and each of them is
exchanged (`replaceAll_intercalate`).

An exchange of single characters does not disturb it, as long as no character of the piece comes
from another one (`replaceFrom_map`).
-/

namespace AnidbClient.Text

section Steps

variable {old : Text} (new : Text)

theorem replaceFrom_length_append (passed rest : Text) :
    replaceFrom old new passed.length (passed ++ rest) = replaceAll old new rest := by
  induction passed with
  | nil => rfl
  | cons c passed ih => exact ih

/-- An occurrence in front is exchanged. -/
theorem replaceAll_append_self (hold : old ≠ []) (rest : Text) :
    replaceAll old new (old ++ rest) = new ++ replaceAll old new rest := by
  obtain ⟨c, tail, rfl⟩ := List.exists_cons_of_ne_nil hold
  have hfront : (c :: tail).isPrefixOf (c :: (tail ++ rest)) = true := by
    rw [List.isPrefixOf_iff_prefix]
    exact List.prefix_append (c :: tail) rest
  unfold replaceAll
  rw [List.cons_append, replaceFrom, if_pos hfront, List.length_cons, Nat.add_sub_cancel,
    replaceFrom_length_append]
  rfl

/-- A character at which no occurrence starts stays. -/
theorem replaceAll_cons_of_not_front {c : Char} {rest : Text} (hno : ¬ old <+: c :: rest) :
    replaceAll old new (c :: rest) = c :: replaceAll old new rest := by
  have hfront : ¬ old.isPrefixOf (c :: rest) = true := by
    rwa [List.isPrefixOf_iff_prefix]
  unfold replaceAll
  rw [replaceFrom, if_neg hfront]

/-- A text without occurrences stays. -/
theorem replaceAll_of_not_inside {s : Text} (hno : ¬ old <:+: s) : replaceAll old new s = s := by
  induction s with
  | nil => rfl
  | cons c s ih =>
    rw [replaceAll_cons_of_not_front new fun hstart => hno hstart.isInfix,
      ih fun hinside => hno (hinside.trans (List.suffix_cons c s).isInfix)]

theorem replaceAll_eq_self {c : Char} {tail s : Text} (hs : c ∉ s) :
    replaceAll (c :: tail) new s = s :=
  replaceAll_of_not_inside new fun hinside => hs (hinside.subset List.mem_cons_self)

/-- No occurrence starts in a text that does not hold its first character. -/
theorem replaceAll_append_of_not_mem {c : Char} {tail s : Text} (hs : c ∉ s) (rest : Text) :
    replaceAll (c :: tail) new (s ++ rest) = s ++ replaceAll (c :: tail) new rest := by
  induction s with
  | nil => rfl
  | cons d s ih =>
    rw [List.mem_cons, not_or] at hs
    have hno : ¬ c :: tail <+: d :: (s ++ rest) := by
      rw [List.cons_prefix_cons]
      exact fun hfront => hs.1 hfront.1
    rw [List.cons_append, replaceAll_cons_of_not_front new hno, ih hs.2]
    rfl

end Steps

/-! ## The parts between occurrences -/

/-- The first of several parts stands in front. -/
theorem prefix_intercalate (old first : Text) (parts : List Text) :
    first <+: List.intercalate old (first :: parts) := by
  cases parts with
  | nil => simp
  | cons next parts =>
    rw [List.intercalate_cons_cons, List.append_assoc]
    exact List.prefix_append first _

theorem cons_intercalate (c : Char) (old first : Text) (parts : List Text) :
    c :: List.intercalate old (first :: parts) = List.intercalate old ((c :: first) :: parts) := by
  cases parts with
  | nil => simp
  | cons next parts =>
    rw [List.intercalate_cons_cons, List.intercalate_cons_cons]
    rfl

/-- Every text is made of parts without occurrences, and an occurrence between each two. -/
theorem exists_eq_intercalate {old : Text} (hold : old ≠ []) (s : Text) :
    ∃ first parts, s = List.intercalate old (first :: parts) ∧
      ∀ part ∈ first :: parts, ¬ old <:+: part := by
  induction hlength : s.length using Nat.strongRecOn generalizing s with
  | _ n ih =>
    subst hlength
    have hempty : ¬ old <:+: [] := fun hinside => hold (List.infix_nil.1 hinside)
    by_cases hfront : old <+: s
    · obtain ⟨rest, rfl⟩ := hfront
      have hrest : rest.length < (old ++ rest).length := by
        rw [List.length_append]
        exact Nat.lt_add_of_pos_left (List.length_pos_iff.2 hold)
      obtain ⟨first, parts, heq, hparts⟩ := ih _ hrest rest rfl
      refine ⟨[], first :: parts, ?_, List.forall_mem_cons.2 ⟨hempty, hparts⟩⟩
      rw [List.intercalate_cons_cons, ← heq]
      rfl
    · cases s with
      | nil => exact ⟨[], [], by simp, by simpa using hempty⟩
      | cons c rest =>
        obtain ⟨first, parts, heq, hparts⟩ := ih _ (Nat.lt_succ_self rest.length) rest rfl
        rw [List.forall_mem_cons] at hparts
        have hfirst : ¬ old <:+: c :: first := by
          intro hinside
          rcases List.infix_cons_iff.1 hinside with hstart | hlater
          · have hgrown : c :: first <+: c :: rest :=
              List.cons_prefix_cons.2 ⟨rfl, heq ▸ prefix_intercalate old first parts⟩
            exact hfront (hstart.trans hgrown)
          · exact hparts.1 hlater
        refine ⟨c :: first, parts, ?_, List.forall_mem_cons.2 ⟨hfirst, hparts.2⟩⟩
        rw [heq, cons_intercalate]

/-! ## Pieces that cannot overlap themselves -/

section Mark

variable {c : Char} {tail : Text} (new : Text)

/-- A piece in front of a text ends before a character that it does not hold. -/
theorem prefix_of_prefix_append_cons {piece s more : Text} (hc : c ∉ piece)
    (hpiece : piece <+: s ++ c :: more) : piece <+: s := by
  have hupto : s ++ [c] <+: s ++ c :: more := by
    rw [List.prefix_append_right_inj]
    exact List.prefix_append [c] more
  rcases List.prefix_or_prefix_of_prefix hpiece hupto with hshort | hlong
  · rcases List.prefix_concat_iff.1 hshort with rfl | hstart
    · exact absurd (List.mem_append_right s List.mem_cons_self) hc
    · exact hstart
  · exact absurd (hlong.subset (List.mem_append_right s List.mem_cons_self)) hc

/-- What stands in front of an occurrence stays, and the occurrence is exchanged. -/
theorem replaceAll_append_mark (hc : c ∉ tail) {s : Text} (hs : ¬ c :: tail <:+: s) (rest : Text) :
    replaceAll (c :: tail) new (s ++ (c :: tail ++ rest)) =
      s ++ (new ++ replaceAll (c :: tail) new rest) := by
  induction s with
  | nil => exact replaceAll_append_self new (List.cons_ne_nil c tail) rest
  | cons d s ih =>
    have hno : ¬ c :: tail <+: d :: (s ++ (c :: tail ++ rest)) := by
      rw [List.cons_prefix_cons]
      rintro ⟨rfl, htail⟩
      have hinside : tail <+: s := prefix_of_prefix_append_cons hc htail
      exact hs (List.cons_prefix_cons.2 ⟨rfl, hinside⟩).isInfix
    rw [List.cons_append, replaceAll_cons_of_not_front new hno,
      ih fun hinside => hs (hinside.trans (List.suffix_cons d s).isInfix)]
    rfl

/-- Between the occurrences nothing happens, and each of them is exchanged. -/
theorem replaceAll_intercalate (hc : c ∉ tail) {parts : List Text}
    (hparts : ∀ part ∈ parts, ¬ c :: tail <:+: part) :
    replaceAll (c :: tail) new (List.intercalate (c :: tail) parts) =
      List.intercalate new parts := by
  induction parts with
  | nil => rfl
  | cons part parts ih =>
    have hpart : ¬ c :: tail <:+: part := hparts part List.mem_cons_self
    cases parts with
    | nil => simpa using replaceAll_of_not_inside new hpart
    | cons next parts =>
      rw [List.intercalate_cons_cons, List.intercalate_cons_cons, List.append_assoc,
        List.append_assoc, replaceAll_append_mark new hc hpart,
        ih fun part hmem => hparts part (List.mem_cons_of_mem _ hmem)]

/-- An exchange leaves its mark. -/
theorem mem_replaceAll (hc : c ∉ tail) {s : Text} (hinside : c :: tail <:+: s) {d : Char}
    (hd : d ∈ new) : d ∈ replaceAll (c :: tail) new s := by
  obtain ⟨first, parts, rfl, hparts⟩ := exists_eq_intercalate (List.cons_ne_nil c tail) s
  rw [replaceAll_intercalate new hc hparts]
  cases parts with
  | nil =>
    rw [List.intercalate_singleton] at hinside
    exact absurd hinside (hparts first List.mem_cons_self)
  | cons next parts =>
    rw [List.intercalate_cons_cons]
    exact List.mem_append_left _ (List.mem_append_right first hd)

end Mark

/-! ## Texts whose characters are exchanged -/

section Map

variable {f : Char → Char}

theorem isPrefixOf_map {piece : Text} (hpiece : ∀ d ∈ piece, ∀ c, f c = d ↔ c = d) (s : Text) :
    piece.isPrefixOf (s.map f) = piece.isPrefixOf s := by
  induction piece generalizing s with
  | nil => rfl
  | cons d piece ih =>
    rw [List.forall_mem_cons] at hpiece
    cases s with
    | nil => rfl
    | cons c s =>
      rw [List.map_cons, List.isPrefixOf_cons_cons, List.isPrefixOf_cons_cons, ih hpiece.2]
      congr 1
      rw [Bool.eq_iff_iff, beq_iff_eq, beq_iff_eq, eq_comm, hpiece.1 c, eq_comm]

theorem replaceFrom_map {old new : Text} (hold : ∀ d ∈ old, ∀ c, f c = d ↔ c = d)
    (hnew : new.map f = new) (skip : Nat) (s : Text) :
    replaceFrom old new skip (s.map f) = (replaceFrom old new skip s).map f := by
  induction s generalizing skip with
  | nil => cases skip <;> rfl
  | cons c s ih =>
    cases skip with
    | succ skip => exact ih skip
    | zero =>
      have hfront : old.isPrefixOf (f c :: s.map f) = old.isPrefixOf (c :: s) :=
        isPrefixOf_map hold (c :: s)
      rw [List.map_cons, replaceFrom, replaceFrom, hfront]
      split
      next => rw [ih, List.map_append, hnew]
      next => rw [ih, List.map_cons]

end Map

end AnidbClient.Text
