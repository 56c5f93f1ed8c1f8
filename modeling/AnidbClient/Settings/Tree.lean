import AnidbClient.Text

/-!
# Settings before they are typed

A settings file, the environment and a JSON document all come down to a `Tree`: tables of named
values, lists, and scalars that still may be of the wrong type.

Trees are laid over each other with `merge`: of two tables each key is looked at on its own, and
in all other cases the later value replaces the earlier one whole.  `find?_merge` states it as
the rule for one key.
-/

namespace AnidbClient.Settings

/-- A value of a settings source. -/
inductive Tree where
  | null
  | bool (b : Bool)
  | int (i : Int)
  /-- A number with a fraction or an exponent, as it was written.  No setting takes one. -/
  | decimal (numeral : Text)
  | text (s : Text)
  | list (items : List Tree)
  | table (entries : List (Text × Tree))
  deriving Inhabited

/-- Named values.  No key comes twice. -/
abbrev Entries := List (Text × Tree)

/-- The first value under a key. -/
def find? {α : Type} (key : Text) : List (Text × α) → Option α
  | [] => none
  | (k, a) :: rest => if k = key then some a else find? key rest

/-- The values with one of them exchanged, or added at the end. -/
def set {α : Type} (key : Text) (a : α) : List (Text × α) → List (Text × α)
  | [] => [(key, a)]
  | (k, b) :: rest => if k = key then (k, a) :: rest else (k, b) :: set key a rest

theorem find?_append {α : Type} (key : Text) (es fs : List (Text × α)) :
    find? key (es ++ fs) = (find? key es).or (find? key fs) := by
  induction es with
  | nil => simp [find?]
  | cons e rest ih =>
    obtain ⟨k, a⟩ := e
    by_cases h : k = key <;> simp [find?, h, ih]

namespace Tree

mutual

/-- The later value laid over the earlier one. -/
def merge : Tree → Tree → Tree
  | table earlier, table later =>
    table (overlay earlier later ++ later.filter fun e => (find? e.1 earlier).isNone)
  | _, later => later
termination_by structural earlier => earlier

/-- The values of the earlier table, each with the later value of its key laid over it. -/
def overlay : List (Text × Tree) → List (Text × Tree) → List (Text × Tree)
  | [], _ => []
  | (key, a) :: rest, later =>
    (key,
      match find? key later with
      | none => a
      | some b => merge a b) :: overlay rest later
termination_by structural earlier => earlier

end

/-- A value under a path of keys, each in a table of its own. -/
def nest (path : List Text) (t : Tree) : Tree :=
  path.foldr (fun key t => table [(key, t)]) t

/-- The table without any value. -/
def empty : Tree := table []

/-- The value under a key, where there is a table that has the key. -/
def get? (key : Text) : Tree → Option Tree
  | table es => find? key es
  | _ => none

theorem find?_overlay (key : Text) (earlier later : Entries) :
    find? key (overlay earlier later) =
      (find? key earlier).map fun a => ((find? key later).map (merge a)).getD a := by
  induction earlier with
  | nil => simp [overlay, find?]
  | cons e rest ih =>
    obtain ⟨k, a⟩ := e
    by_cases h : k = key
    · subst h
      cases hl : find? k later <;> simp [overlay, find?, hl]
    · simp [overlay, find?, h, ih]

theorem find?_filter_of_isNone (key : Text) (earlier later : Entries)
    (h : find? key earlier = none) :
    find? key (later.filter fun e => (find? e.1 earlier).isNone) = find? key later := by
  induction later with
  | nil => rfl
  | cons e rest ih =>
    obtain ⟨k, a⟩ := e
    by_cases hk : k = key
    · subst hk
      simp [find?, h]
    · by_cases hn : (find? k earlier).isNone = true
      · simp [find?, hn, hk, ih]
      · simp [find?, hn, hk, ih]

/-- Of two tables each key is looked at on its own: a key of both has the later value laid over
the earlier one, a key of one has the value it has there. -/
theorem find?_merge (key : Text) (earlier later : Entries) :
    (merge (table earlier) (table later)).get? key =
      match find? key earlier, find? key later with
      | some a, some b => some (merge a b)
      | some a, none => some a
      | none, b => b := by
  rw [merge, get?, find?_append, find?_overlay]
  cases he : find? key earlier with
  | some a => cases hl : find? key later <;> simp
  | none =>
    rw [find?_filter_of_isNone key earlier later he]
    simp

end Tree

end AnidbClient.Settings
