import AnidbClient.Text.Blank

/-!
# Readers

A reader takes something off the front of a text, or refuses.  Readers are put together with
`do`, and `p <|> q` is `q` where `p` refuses, from the same place on.

No reader of a settings file or of an environment variable needs more than the few here: a
character, a fixed text, a run of characters of a class, a look at what comes next, and the same
thing many times.

A reader makes something of a whole text only with nothing left (`run?_eq_some_iff`).
-/

namespace AnidbClient.Text

/-- Takes something off the front of a text, or refuses. -/
abbrev Reader (α : Type) := StateT Text Option α

namespace Reader

variable {α : Type}

/-- Takes a character of a class. -/
def charWhere (p : Char → Bool) : Reader Char
  | [] => none
  | c :: rest => if p c then some (c, rest) else none

/-- Takes this character. -/
def char (c : Char) : Reader Unit :=
  discard (charWhere (· == c))

/-- Takes this text. -/
def literal (piece : Text) : Reader Unit :=
  fun s => (dropPrefix? piece s).map fun rest => ((), rest)

/-- Takes the longest run of characters of a class, which may be empty. -/
def span (p : Char → Bool) : Reader Text :=
  fun s => some (s.takeWhile p, s.dropWhile p)

/-- Takes the longest run of characters of a class, which must not be empty. -/
def run (p : Char → Bool) : Reader Text := do
  return (← charWhere p) :: (← span p)

/-- Takes nothing, and refuses unless a character of the class comes next. -/
def ahead (p : Char → Bool) : Reader Unit :=
  fun s => if s.head?.any p then some ((), s) else none

/-- Takes nothing, and refuses if a character of the class comes next. -/
def notAhead (p : Char → Bool) : Reader Unit :=
  fun s => if s.head?.any p then none else some ((), s)

/-- Takes nothing, and refuses where the reader refuses. -/
def lookahead (r : Reader α) : Reader Unit :=
  fun s => (r s).map fun _ => ((), s)

/-- Takes nothing, and refuses unless the text has ended. -/
def atEnd : Reader Unit
  | [] => some ((), [])
  | _ :: _ => none

/-- What the reader takes, as it stands in the text. -/
def taken (r : Reader α) : Reader Text :=
  fun s => (r s).map fun (_, rest) => (s.take (s.length - rest.length), rest)

/-- The same thing until the reader refuses, but at most `n` times. -/
def upTo (r : Reader α) : Nat → Reader (List α)
  | 0 => pure []
  | n + 1 => fun s =>
    match r s with
    | none => some ([], s)
    | some (a, rest) => (upTo r n rest).map fun (as, rest) => (a :: as, rest)

/-- The same thing until the reader refuses.  The reader has to take at least a character each
time, so the length of the text bounds the number of times. -/
def many (r : Reader α) : Reader (List α) :=
  fun s => upTo r s.length s

/-- Things between brackets, with a comma between neighbours and perhaps one behind the last;
`gap` stands before each of them and before the closing bracket. -/
def bracketed (opening closing : Char) (gap : Reader Unit) (item : Reader α) :
    Reader (List α) := do
  char opening
  gap
  let items ← many do
    notAhead (· == closing)
    let a ← item
    (do char ','; gap) <|> ahead (· == closing)
    return a
  char closing
  return items

/-- What the reader makes of a whole text. -/
def run? (r : Reader α) (s : Text) : Option α :=
  match r s with
  | some (a, []) => some a
  | _ => none

theorem run?_eq_some_iff {r : Reader α} {s : Text} {a : α} :
    run? r s = some a ↔ r s = some (a, []) := by
  unfold run?
  split
  next h => simp [h]
  next h => exact ⟨nofun, fun h' => (h a h').elim⟩

end Reader

end AnidbClient.Text
