import AnidbClient.Text

/-!
# Decimal numerals

`digits` writes a natural number without leading zeros, `signedDigits` an integer.  Reading is
wider than writing: leading zeros are allowed and so is one plus sign, but nothing else, and a
value outside the range of its field is no numeral of it.

* `natural?` reads bare digits;
* `unsigned?` also takes a plus sign and keeps to values below a bound;
* `signed?` also takes a minus sign and keeps to a range.

`natural?_digits`, `unsigned?_digits` and `signed?_signedDigits` say that what is written reads
back.
-/

namespace AnidbClient.Text

/-! ## Writing -/

/-- The character of a digit below ten. -/
def digitChar (d : Nat) : Char :=
  Char.ofNat (48 + d)

/-- The decimal digits of a natural number, most significant first. -/
def digits (n : Nat) : Text :=
  if n < 10 then [digitChar n] else digits (n / 10) ++ [digitChar (n % 10)]
termination_by n

/-- The decimal digits of an integer, after a minus sign if it is negative. -/
def signedDigits (i : Int) : Text :=
  if i < 0 then '-' :: digits i.natAbs else digits i.natAbs

/-! ## Reading -/

/-- The value of an ASCII digit. -/
def digit? (c : Char) : Option Nat :=
  if '0' ≤ c ∧ c ≤ '9' then some (c.toNat - 48) else none

/-- The value of the digits of `s` written after a number `acc`. -/
def digitsFrom? (acc : Nat) : Text → Option Nat
  | [] => some acc
  | c :: rest => (digit? c).bind fun d => digitsFrom? (10 * acc + d) rest

/-- One or more ASCII digits. -/
def natural? : Text → Option Nat
  | [] => none
  | c :: rest => digitsFrom? 0 (c :: rest)

/-- What follows an optional plus sign. -/
def dropPlus : Text → Text
  | '+' :: rest => rest
  | s => s

/-- An optional plus sign and one or more digits, with a value below `bound`. -/
def unsigned? (bound : Nat) (s : Text) : Option Nat :=
  (natural? (dropPlus s)).filter (· < bound)

/-- An optional sign and one or more digits, with a value of at least `-bound` and below
`bound`. -/
def signed? (bound : Nat) : Text → Option Int
  | '-' :: rest => ((natural? rest).map fun n : Nat => -(n : Int)).filter (-(bound : Int) ≤ ·)
  | s => (unsigned? bound s).map Int.ofNat

/-- A number of eight bits. -/
def u8? (s : Text) : Option UInt8 := (unsigned? UInt8.size s).map UInt8.ofNat

/-- A number of sixteen bits. -/
def u16? (s : Text) : Option UInt16 := (unsigned? UInt16.size s).map UInt16.ofNat

/-- A number of thirty-two bits. -/
def u32? (s : Text) : Option UInt32 := (unsigned? UInt32.size s).map UInt32.ofNat

/-- A number of sixty-four bits. -/
def u64? (s : Text) : Option UInt64 := (unsigned? UInt64.size s).map UInt64.ofNat

/-- An integer of sixty-four bits. -/
def i64? (s : Text) : Option Int := signed? (UInt64.size / 2) s

/-! ## What is written reads back -/

theorem digit?_digitChar {d : Nat} (h : d < 10) : digit? (digitChar d) = some d := by
  have : d = 0 ∨ d = 1 ∨ d = 2 ∨ d = 3 ∨ d = 4 ∨ d = 5 ∨ d = 6 ∨ d = 7 ∨ d = 8 ∨ d = 9 := by
    omega
  rcases this with rfl | rfl | rfl | rfl | rfl | rfl | rfl | rfl | rfl | rfl <;> decide

theorem digitsFrom?_append (acc : Nat) (s t : Text) :
    digitsFrom? acc (s ++ t) = (digitsFrom? acc s).bind fun n => digitsFrom? n t := by
  induction s generalizing acc with
  | nil => simp [digitsFrom?]
  | cons c rest ih => cases h : digit? c <;> simp [digitsFrom?, h, ih]

theorem digits_ne_nil (n : Nat) : digits n ≠ [] := by
  rw [digits]
  split <;> simp

theorem digitsFrom?_digits (n : Nat) : digitsFrom? 0 (digits n) = some n := by
  induction n using Nat.strongRecOn with
  | _ n ih =>
    rw [digits]
    split
    next h => simp [digitsFrom?, digit?_digitChar h]
    next h =>
      rw [digitsFrom?_append, ih (n / 10) (by omega)]
      simp [digitsFrom?, digit?_digitChar (Nat.mod_lt n (by decide)), Nat.div_add_mod]

theorem natural?_digits (n : Nat) : natural? (digits n) = some n := by
  obtain ⟨c, rest, h⟩ := List.exists_cons_of_ne_nil (digits_ne_nil n)
  rw [h, natural?, ← h, digitsFrom?_digits]

/-- A numeral starts with a digit, so with no sign. -/
theorem exists_digit_digits (n : Nat) : ∃ d < 10, ∃ rest, digits n = digitChar d :: rest := by
  induction n using Nat.strongRecOn with
  | _ n ih =>
    rw [digits]
    split
    next h => exact ⟨n, h, [], rfl⟩
    next h =>
      obtain ⟨d, hd, rest, heq⟩ := ih (n / 10) (by omega)
      exact ⟨d, hd, rest ++ [digitChar (n % 10)], by simp [heq]⟩

theorem digitChar_ne {d : Nat} (h : d < 10) {c : Char} (hc : digit? c = none) :
    digitChar d ≠ c := by
  intro heq
  rw [← heq, digit?_digitChar h] at hc
  cases hc

theorem dropPlus_digits (n : Nat) : dropPlus (digits n) = digits n := by
  obtain ⟨d, hd, rest, heq⟩ := exists_digit_digits n
  rw [heq, dropPlus]
  intro tail htail
  exact digitChar_ne hd (by decide) (List.cons.inj htail).1

theorem unsigned?_digits {bound n : Nat} (h : n < bound) :
    unsigned? bound (digits n) = some n := by
  simp [unsigned?, dropPlus_digits, natural?_digits, h]

theorem signed?_signedDigits {bound : Nat} {i : Int} (hlo : -(bound : Int) ≤ i)
    (hhi : i < bound) : signed? bound (signedDigits i) = some i := by
  unfold signedDigits
  split
  next h =>
    have hi : -(i.natAbs : Int) = i := by omega
    rw [signed?, natural?_digits, Option.map_some, hi]
    simp [hlo]
  next h =>
    obtain ⟨d, hd, rest, heq⟩ := exists_digit_digits i.natAbs
    rw [signed?, unsigned?_digits (show i.natAbs < bound by omega), Option.map_some]
    · congr 1
      simp
      omega
    · intro tail htail
      rw [heq] at htail
      exact digitChar_ne hd (by decide) (List.cons.inj htail).1

end AnidbClient.Text
