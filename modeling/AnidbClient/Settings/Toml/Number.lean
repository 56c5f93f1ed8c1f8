import AnidbClient.Settings.Tree
import AnidbClient.Text.Escape
import AnidbClient.Text.Numeral

/-!
# Numerals of a settings file

A whole number is written in decimal digits with an optional sign, or after `0x`, `0o` or `0b`
without one; it must fit into sixty-four bits with a sign.  A number with a fraction or an
exponent may be as small as it likes but not as great as to have no binary value of double
precision.  Between digits there may be single underscores.
-/

namespace AnidbClient.Settings.Toml

open Text

/-! ## Digits -/

/-- The value of a digit in a base of at most sixteen. -/
def digitIn? (base : Nat) (c : Char) : Option Nat :=
  (hexDigit? c).filter (· < base)

/-- The value of digits in a base. -/
def valueIn? (base : Nat) (s : Text) : Option Nat :=
  s.foldlM (fun n c => (digitIn? base c).map fun d => base * n + d) 0

/-- Digits without the underscores between them; there has to be a digit on either side of an
underscore. -/
def bareDigits? (s : Text) : Option Text :=
  let groups := split '_' s
  if groups.any (·.isEmpty) then none else some groups.flatten

/-- The value of digits with underscores between them. -/
def natural? (base : Nat) (s : Text) : Option Nat :=
  (bareDigits? s).bind (valueIn? base)

/-- A numeral is negative, and what follows its optional sign. -/
def splitSign : Text → Bool × Text
  | '-' :: rest => (true, rest)
  | '+' :: rest => (false, rest)
  | s => (false, s)

/-! ## Whole numbers -/

/-- Decimal digits that do not begin with a zero, unless it is the only digit. -/
def plainNatural? (s : Text) : Option Nat :=
  match s with
  | '0' :: _ :: _ => none
  | _ => natural? 10 s

/-- A whole number of any size. -/
def whole? : Text → Option Int
  | '0' :: 'x' :: s => (natural? 16 s).map Int.ofNat
  | '0' :: 'o' :: s => (natural? 8 s).map Int.ofNat
  | '0' :: 'b' :: s => (natural? 2 s).map Int.ofNat
  | s =>
    let (negative, s) := splitSign s
    (plainNatural? s).map fun n => if negative then -(n : Int) else n

/-- A whole number of sixty-four bits with a sign. -/
def integer? (s : Text) : Option Int :=
  (whole? s).filter fun i => -9223372036854775808 ≤ i && i ≤ 9223372036854775807

/-! ## Numbers with a fraction or an exponent -/

/-- The least number that double precision rounds to infinity: half a unit above its greatest. -/
def overflow : Nat := Nat.pow 2 1024 - Nat.pow 2 970

/-- Whether `m * 10 ^ e` is at least as great as `overflow`.  The number of digits before the
point settles it where it is far from that of `overflow`. -/
def overflows (m : Nat) (e : Int) : Bool :=
  let width := (digits m).length + e
  m ≠ 0 &&
    (310 < width ||
      (300 < width && overflow * Nat.pow 10 (-e).toNat ≤ m * Nat.pow 10 e.toNat))

/-- The two sides of the first character of a class, and whether there is one. -/
def cutWhere (p : Char → Bool) (s : Text) : Text × Option Text :=
  (s.takeWhile (!p ·), (s.dropWhile (!p ·)).tail?)

/-- The exponent of a numeral, zero where there is none. -/
def exponent? : Option Text → Option Int
  | none => some 0
  | some s =>
    let (negative, s) := splitSign s
    (natural? 10 s).map fun n => if negative then -(n : Int) else n

/-- Whether a text is a number with a fraction, an exponent or both. -/
def isDecimal (s : Text) : Bool :=
  let (negative, s) := splitSign s
  let (mantissa, power) := cutWhere (fun c => c == 'e' || c == 'E') s
  let (whole, fraction) := cutWhere (· == '.') mantissa
  match plainNatural? whole, fraction.mapM bareDigits?, exponent? power with
  | some _, some part, some e =>
    match valueIn? 10 (whole.filter (· != '_') ++ part.getD []) with
    | none => false
    | some m =>
      (fraction.isSome || power.isSome) &&
        (negative || !overflows m (e - (part.getD []).length))
  | _, _, _ => false

/-- Whether a text is infinity or no number at all, with an optional sign. -/
def isSpecial (s : Text) : Bool :=
  let (_, s) := splitSign s
  s = ("inf" : Text) || s = ("nan" : Text)

/-! ## Scalars without quotes -/

/-- The value of a word: a truth value or a number. -/
def wordValue? (s : Text) : Option Tree :=
  if s = ("true" : Text) then some (.bool true)
  else if s = ("false" : Text) then some (.bool false)
  else if isSpecial s || isDecimal s then some (.decimal s)
  else (integer? s).map .int

end AnidbClient.Settings.Toml
