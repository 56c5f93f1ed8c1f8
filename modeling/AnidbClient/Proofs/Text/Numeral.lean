import AnidbClient.Text.Numeral
import Mathlib.Data.List.Induction

/-!
# The characters of a numeral

A numeral holds digits only, and two numbers have two numerals.  What reads as a number holds
nothing but digits behind a sign.  Numbers of each width are read back as they were written.

A number has more numerals than the one that is written.  `IsNumeral`, `IsUnsigned` and `IsSigned`
list those without a sign, those with a plus sign and those with any sign.  They are just what
reading takes, if the number is in the range that is read (`natural?_eq_some_iff`,
`unsigned?_eq_some_iff`, `signed?_eq_some_iff`).
-/

namespace AnidbClient.Text

theorem exists_digit_of_mem_digits (n : Nat) {c : Char} (hc : c ∈ digits n) :
    ∃ d < 10, c = digitChar d := by
  induction n using Nat.strongRecOn with
  | _ n ih =>
    rw [digits] at hc
    split at hc
    · rename_i hn
      exact ⟨n, hn, List.mem_singleton.1 hc⟩
    · rename_i hn
      rw [List.mem_append, List.mem_singleton] at hc
      rcases hc with hc | hc
      · exact ih (n / 10) (by omega) hc
      · exact ⟨n % 10, Nat.mod_lt n (by decide), hc⟩

theorem not_mem_digits {c : Char} (hc : digit? c = none) (n : Nat) : c ∉ digits n := by
  intro hmem
  obtain ⟨d, hd, heq⟩ := exists_digit_of_mem_digits n hmem
  exact digitChar_ne hd hc heq.symm

/-- What no digit is, no character of a numeral is. -/
theorem eq_false_of_mem_digits {p : Char → Bool} (hp : ∀ d < 10, p (digitChar d) = false)
    (n : Nat) : ∀ c ∈ digits n, p c = false := by
  intro c hc
  obtain ⟨d, hd, rfl⟩ := exists_digit_of_mem_digits n hc
  exact hp d hd

theorem eq_false_of_mem_signedDigits {p : Char → Bool} (hp : ∀ d < 10, p (digitChar d) = false)
    (hminus : p '-' = false) (i : Int) : ∀ c ∈ signedDigits i, p c = false := by
  intro c hc
  unfold signedDigits at hc
  split at hc
  · rcases List.mem_cons.1 hc with rfl | hc
    · exact hminus
    · exact eq_false_of_mem_digits hp _ c hc
  · exact eq_false_of_mem_digits hp _ c hc

theorem not_mem_signedDigits {c : Char} (hc : digit? c = none) (hminus : c ≠ '-') (i : Int) :
    c ∉ signedDigits i := by
  unfold signedDigits
  split
  · rw [List.mem_cons, not_or]
    exact ⟨hminus, not_mem_digits hc _⟩
  · exact not_mem_digits hc _

theorem signedDigits_ne_nil (i : Int) : signedDigits i ≠ [] := by
  unfold signedDigits
  split
  · simp
  · exact digits_ne_nil _

theorem digits_injective {m n : Nat} (h : digits m = digits n) : m = n := by
  have hm := natural?_digits m
  rw [h, natural?_digits, Option.some.injEq] at hm
  exact hm.symm

theorem isSome_digit?_of_digitsFrom? {acc n : Nat} {s : Text} (h : digitsFrom? acc s = some n) :
    ∀ c ∈ s, (digit? c).isSome = true := by
  induction s generalizing acc with
  | nil => simp
  | cons first rest ih =>
    rw [digitsFrom?] at h
    cases hfirst : digit? first with
    | none =>
      rw [hfirst] at h
      cases h
    | some d =>
      rw [hfirst, Option.bind_some] at h
      intro c hc
      rcases List.mem_cons.1 hc with rfl | hrest
      · rw [hfirst]
        rfl
      · exact ih h c hrest

/-! ## All numerals of a number -/

/-- The digits of the number, perhaps behind zeros. -/
def IsNumeral (n : Nat) (s : Text) : Prop :=
  ∃ zeros, s = List.replicate zeros '0' ++ digits n

theorem eq_digitChar_of_digit? {c : Char} {d : Nat} (h : digit? c = some d) :
    d < 10 ∧ c = digitChar d := by
  unfold digit? at h
  split at h
  · rename_i hrange
    obtain rfl := Option.some.inj h
    have hlow : 48 ≤ c.toNat := hrange.1
    have hhigh : c.toNat ≤ 57 := hrange.2
    refine ⟨by omega, ?_⟩
    rw [digitChar, Nat.add_sub_cancel' hlow, Char.ofNat_toNat]
  · cases h

theorem digits_of_lt {n : Nat} (h : n < 10) : digits n = [digitChar n] := by
  rw [digits, if_pos h]

theorem digits_concat {m d : Nat} (hm : 0 < m) (hd : d < 10) :
    digits (10 * m + d) = digits m ++ [digitChar d] := by
  rw [digits, if_neg (by omega), show (10 * m + d) / 10 = m by omega,
    show (10 * m + d) % 10 = d by omega]

theorem natural?_eq_digitsFrom? {s : Text} (hs : s ≠ []) : natural? s = digitsFrom? 0 s := by
  cases s with
  | nil => exact absurd rfl hs
  | cons c rest => rfl

theorem digitsFrom?_replicate_zero (zeros : Nat) :
    digitsFrom? 0 (List.replicate zeros '0') = some 0 := by
  induction zeros with
  | zero => rfl
  | succ zeros ih => exact ih

theorem IsNumeral.ne_nil {n : Nat} {s : Text} (h : IsNumeral n s) : s ≠ [] := by
  obtain ⟨zeros, rfl⟩ := h
  exact List.append_ne_nil_of_right_ne_nil _ (digits_ne_nil n)

/-- Digit by digit from the left: a digit behind a numeral makes one of a number ten times as
large, and behind zeros it stands for itself. -/
theorem isNumeral_of_digitsFrom? {s : Text} {n : Nat} (hs : s ≠ [])
    (h : digitsFrom? 0 s = some n) : IsNumeral n s := by
  induction s using List.reverseRecOn generalizing n with
  | nil => exact absurd rfl hs
  | append_singleton front c ih =>
    rw [digitsFrom?_append] at h
    obtain ⟨m, hfront, hlast⟩ := Option.bind_eq_some_iff.1 h
    obtain ⟨d, hdigit, hn⟩ := Option.bind_eq_some_iff.1 hlast
    obtain rfl := Option.some.inj hn
    obtain ⟨hd, rfl⟩ := eq_digitChar_of_digit? hdigit
    by_cases hnil : front = []
    · subst hnil
      obtain rfl := Option.some.inj hfront
      exact ⟨0, by rw [Nat.mul_zero, Nat.zero_add, digits_of_lt hd]; rfl⟩
    · obtain ⟨zeros, rfl⟩ := ih hnil hfront
      rcases Nat.eq_zero_or_pos m with rfl | hm
      · refine ⟨zeros + 1, ?_⟩
        rw [List.replicate_succ', Nat.mul_zero, Nat.zero_add, digits_of_lt hd,
          digits_of_lt (by decide : 0 < 10)]
        rfl
      · exact ⟨zeros, by rw [digits_concat hm hd, List.append_assoc]⟩

/-- Bare digits read as a number exactly if they are a numeral of it. -/
theorem natural?_eq_some_iff {s : Text} {n : Nat} : natural? s = some n ↔ IsNumeral n s := by
  constructor
  · intro h
    have hs : s ≠ [] := by
      rintro rfl
      cases h
    exact isNumeral_of_digitsFrom? hs (natural?_eq_digitsFrom? hs ▸ h)
  · intro h
    rw [natural?_eq_digitsFrom? h.ne_nil]
    obtain ⟨zeros, rfl⟩ := h
    rw [digitsFrom?_append, digitsFrom?_replicate_zero]
    exact digitsFrom?_digits n

theorem IsNumeral.isSome_digit? {n : Nat} {s : Text} (h : IsNumeral n s) :
    ∀ c ∈ s, (digit? c).isSome = true := by
  have hread := natural?_eq_some_iff.2 h
  rw [natural?_eq_digitsFrom? h.ne_nil] at hread
  exact isSome_digit?_of_digitsFrom? hread

theorem IsNumeral.not_mem {n : Nat} {s : Text} (h : IsNumeral n s) {c : Char}
    (hc : digit? c = none) : c ∉ s := by
  intro hmem
  have hsome := h.isSome_digit? c hmem
  rw [hc] at hsome
  cases hsome

/-- A numeral, perhaps behind a plus sign. -/
def IsUnsigned (n : Nat) (s : Text) : Prop :=
  IsNumeral n s ∨ ∃ rest, s = '+' :: rest ∧ IsNumeral n rest

/-- A numeral, perhaps behind a sign. -/
def IsSigned (i : Int) (s : Text) : Prop :=
  (∃ n : Nat, i = n ∧ IsUnsigned n s) ∨
    ∃ (n : Nat) (rest : Text), i = -n ∧ s = '-' :: rest ∧ IsNumeral n rest

section Signs

variable {n : Nat} {i : Int} {s : Text}

theorem isUnsigned_digits (n : Nat) : IsUnsigned n (digits n) :=
  .inl ⟨0, rfl⟩

theorem IsUnsigned.isSigned (h : IsUnsigned n s) : IsSigned n s :=
  .inl ⟨n, rfl, h⟩

theorem isSigned_signedDigits (i : Int) : IsSigned i (signedDigits i) := by
  unfold signedDigits
  split
  · exact .inr ⟨i.natAbs, digits i.natAbs, by omega, rfl, 0, rfl⟩
  · exact .inl ⟨i.natAbs, by omega, isUnsigned_digits _⟩

theorem IsNumeral.ne_sign (h : IsNumeral n s) {c : Char} (hc : digit? c = none) (rest : Text) :
    s ≠ c :: rest := by
  rintro rfl
  exact h.not_mem hc List.mem_cons_self

theorem IsNumeral.eq_false (h : IsNumeral n s) {p : Char → Bool}
    (hdigits : ∀ d < 10, p (digitChar d) = false) : ∀ c ∈ s, p c = false := by
  intro c hc
  obtain ⟨d, hd⟩ := Option.isSome_iff_exists.1 (h.isSome_digit? c hc)
  obtain ⟨hlt, rfl⟩ := eq_digitChar_of_digit? hd
  exact hdigits d hlt

/-- A numeral behind a sign or without one holds digits and signs only. -/
theorem IsSigned.eq_false (h : IsSigned i s) {p : Char → Bool}
    (hdigits : ∀ d < 10, p (digitChar d) = false) (hplus : p '+' = false) (hminus : p '-' = false) :
    ∀ c ∈ s, p c = false := by
  rcases h with ⟨n, -, h | ⟨rest, rfl, h⟩⟩ | ⟨n, rest, -, rfl, h⟩
  · exact h.eq_false hdigits
  · exact List.forall_mem_cons.2 ⟨hplus, h.eq_false hdigits⟩
  · exact List.forall_mem_cons.2 ⟨hminus, h.eq_false hdigits⟩

theorem IsUnsigned.not_mem (h : IsUnsigned n s) {c : Char} (hc : digit? c = none)
    (hplus : c ≠ '+') : c ∉ s := by
  rcases h with h | ⟨rest, rfl, h⟩
  · exact h.not_mem hc
  · simp [hplus, h.not_mem hc]

theorem natural?_dropPlus_eq_some_iff : natural? (dropPlus s) = some n ↔ IsUnsigned n s := by
  rw [natural?_eq_some_iff]
  unfold dropPlus IsUnsigned
  split
  · rename_i rest
    simp only [List.cons.injEq, true_and, exists_eq_left']
    refine ⟨.inr, fun h => h.resolve_left fun h => ?_⟩
    exact h.ne_sign (by decide) rest rfl
  · rename_i hplus
    refine ⟨.inl, fun h => h.resolve_right ?_⟩
    rintro ⟨rest, rfl, -⟩
    exact hplus rest rfl

/-- A number below the bound is read from its numerals, and from nothing else. -/
theorem unsigned?_eq_some_iff {bound : Nat} :
    unsigned? bound s = some n ↔ n < bound ∧ IsUnsigned n s := by
  unfold unsigned?
  rw [Option.filter_eq_some_iff, natural?_dropPlus_eq_some_iff, decide_eq_true_iff, and_comm]

theorem isSigned_minus_iff {rest : Text} :
    IsSigned i ('-' :: rest) ↔ ∃ n : Nat, i = -n ∧ IsNumeral n rest := by
  constructor
  · rintro (⟨n, -, h⟩ | ⟨n, _, hi, heq, h⟩)
    · exact absurd List.mem_cons_self (h.not_mem (c := '-') (by decide) (by decide))
    · obtain rfl := (List.cons.inj heq).2
      exact ⟨n, hi, h⟩
  · rintro ⟨n, hi, h⟩
    exact .inr ⟨n, rest, hi, rfl, h⟩

theorem isSigned_iff_of_ne (hs : ∀ rest, s ≠ '-' :: rest) :
    IsSigned i s ↔ ∃ n : Nat, i = n ∧ IsUnsigned n s := by
  constructor
  · rintro (h | ⟨n, rest, -, heq, -⟩)
    · exact h
    · exact absurd heq (hs rest)
  · exact .inl

/-- A number in the range is read from its numerals, and from nothing else. -/
theorem signed?_eq_some_iff {bound : Nat} (hbound : 0 < bound) :
    signed? bound s = some i ↔ (-(bound : Int) ≤ i ∧ i < bound) ∧ IsSigned i s := by
  unfold signed?
  split
  · rw [isSigned_minus_iff, Option.filter_eq_some_iff, Option.map_eq_some_iff, decide_eq_true_iff]
    simp only [natural?_eq_some_iff]
    constructor
    · rintro ⟨⟨n, hn, rfl⟩, hlow⟩
      exact ⟨⟨hlow, by omega⟩, n, rfl, hn⟩
    · rintro ⟨⟨hlow, -⟩, n, rfl, hn⟩
      exact ⟨⟨n, hn, rfl⟩, hlow⟩
  · rename_i hminus
    rw [isSigned_iff_of_ne hminus, Option.map_eq_some_iff]
    simp only [unsigned?_eq_some_iff]
    constructor
    · rintro ⟨n, ⟨hn, h⟩, rfl⟩
      exact ⟨⟨by simp, by simpa using hn⟩, n, rfl, h⟩
    · rintro ⟨⟨-, hhigh⟩, n, rfl, h⟩
      exact ⟨n, ⟨by omega, h⟩, rfl⟩

end Signs

/-! ## Numbers of a width -/

section Widths

variable {s : Text}

/-- What reads as a number of a width is a numeral of it. -/
theorem map_unsigned?_eq_some_iff {α : Type} {bound : Nat} {ofNat : Nat → α} {toNat : α → Nat}
    (hlt : ∀ a, toNat a < bound) (hof : ∀ a, ofNat (toNat a) = a)
    (hto : ∀ n < bound, toNat (ofNat n) = n) {a : α} :
    (unsigned? bound s).map ofNat = some a ↔ IsUnsigned (toNat a) s := by
  rw [Option.map_eq_some_iff]
  simp only [unsigned?_eq_some_iff]
  constructor
  · rintro ⟨n, ⟨hn, h⟩, rfl⟩
    rwa [hto n hn]
  · intro h
    exact ⟨toNat a, ⟨hlt a, h⟩, hof a⟩

theorem u8?_eq_some_iff {n : UInt8} : u8? s = some n ↔ IsUnsigned n.toNat s :=
  map_unsigned?_eq_some_iff UInt8.toNat_lt (fun _ => UInt8.ofNat_toNat)
    fun _ => UInt8.toNat_ofNat_of_lt'

theorem u16?_eq_some_iff {n : UInt16} : u16? s = some n ↔ IsUnsigned n.toNat s :=
  map_unsigned?_eq_some_iff UInt16.toNat_lt (fun _ => UInt16.ofNat_toNat)
    fun _ => UInt16.toNat_ofNat_of_lt'

theorem u32?_eq_some_iff {n : UInt32} : u32? s = some n ↔ IsUnsigned n.toNat s :=
  map_unsigned?_eq_some_iff UInt32.toNat_lt (fun _ => UInt32.ofNat_toNat)
    fun _ => UInt32.toNat_ofNat_of_lt'

theorem u64?_eq_some_iff {n : UInt64} : u64? s = some n ↔ IsUnsigned n.toNat s :=
  map_unsigned?_eq_some_iff UInt64.toNat_lt (fun _ => UInt64.ofNat_toNat)
    fun _ => UInt64.toNat_ofNat_of_lt'

theorem i64?_eq_some_iff {i : Int} :
    i64? s = some i ↔ (-9223372036854775808 ≤ i ∧ i < 9223372036854775808) ∧ IsSigned i s :=
  signed?_eq_some_iff (by decide)

/-- What reads as a number holds digits and a sign only. -/
theorem not_mem_of_u16? {n : UInt16} (h : u16? s = some n) {c : Char} (hc : digit? c = none)
    (hplus : c ≠ '+') : c ∉ s :=
  (u16?_eq_some_iff.1 h).not_mem hc hplus

end Widths

theorem u8?_digits (n : UInt8) : u8? (digits n.toNat) = some n :=
  u8?_eq_some_iff.2 (isUnsigned_digits _)

theorem u32?_digits (n : UInt32) : u32? (digits n.toNat) = some n :=
  u32?_eq_some_iff.2 (isUnsigned_digits _)

theorem u64?_digits (n : UInt64) : u64? (digits n.toNat) = some n :=
  u64?_eq_some_iff.2 (isUnsigned_digits _)

theorem i64?_signedDigits (i : Int64) : i64? (signedDigits i.toInt) = some i.toInt :=
  signed?_signedDigits i.le_toInt i.toInt_lt

end AnidbClient.Text
