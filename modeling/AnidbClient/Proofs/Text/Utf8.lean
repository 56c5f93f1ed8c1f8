import AnidbClient.Text.Utf8

/-!
# UTF-8 reads back

The bytes of a text are read back as the text.  `scan_encodeChar` is the case of one character: the
four lengths are told apart by its number, and the bounds of the second byte hold because the
number belongs to a character.  `decode_encode` and `decodeLossy_encode` follow it along the text.
-/

namespace AnidbClient.Text.Utf8

/-! ## Bytes and their numbers -/

theorem toNat_byte {n : Nat} (h : n < 256) : (UInt8.ofNat n).toNat = n :=
  UInt8.toNat_ofNat_of_lt' h

theorem toNat_tailByte (n : Nat) : (tailByte n).toNat = 0x80 + n % 0x40 :=
  toNat_byte (by omega)

theorem isTail_tailByte (n : Nat) : isTail (tailByte n) = true := by
  have hbyte := toNat_tailByte n
  simp only [isTail, Bool.and_eq_true, decide_eq_true_eq, UInt8.le_iff_toNat_le, hbyte]
  constructor
  · exact Nat.le_add_right _ _
  · show 0x80 + n % 0x40 ≤ 0xBF
    omega

theorem scanTail_zero (value width : Nat) (rest : Bytes) :
    scanTail value width 0 rest = .char (Char.ofNat value) width := by
  cases rest <;> rfl

theorem scanTail_tailByte (value width owed n : Nat) (rest : Bytes) :
    scanTail value width (owed + 1) (tailByte n :: rest) =
      scanTail (value * 0x40 + n % 0x40) (width + 1) owed rest := by
  rw [scanTail, if_pos (isTail_tailByte n), toNat_tailByte, Nat.add_sub_cancel_left]

/-- A first byte that announces more bytes, and a second byte within its bounds. -/
theorem scan_of_second {first second : UInt8} {count : Nat} {rest : Bytes}
    (hann : announced first = some count) (hcount : count ≠ 1)
    (hlow : (secondBounds first).1.toNat ≤ second.toNat)
    (hhigh : second.toNat ≤ (secondBounds first).2.toNat) :
    scan (first :: second :: rest) =
      scanTail (firstBits first count * 0x40 + (second.toNat - 0x80)) 2 (count - 2) rest := by
  have hbounds : (secondBounds first).1 ≤ second ∧ second ≤ (secondBounds first).2 :=
    ⟨UInt8.le_iff_toNat_le.2 hlow, UInt8.le_iff_toNat_le.2 hhigh⟩
  unfold scan
  dsimp only
  rw [hann]
  split
  · rename_i heq
    cases heq
  · rename_i heq
    exact absurd (Option.some.inj heq) hcount
  · rename_i heq
    rw [← Option.some.inj heq]
    exact if_pos hbounds

theorem announced_byte {n : Nat} (h : n < 256) :
    announced (UInt8.ofNat n) =
      if n ≤ 0x7F then some 1
      else if 0xC2 ≤ n ∧ n ≤ 0xDF then some 2
      else if 0xE0 ≤ n ∧ n ≤ 0xEF then some 3
      else if 0xF0 ≤ n ∧ n ≤ 0xF4 then some 4
      else none := by
  simp only [announced, UInt8.le_iff_toNat_le, toNat_byte h]
  rfl

/-- The bounds of a second byte whose first byte has this number. -/
theorem secondBounds_byte {n : Nat} (h : n < 256) :
    (secondBounds (UInt8.ofNat n)).1.toNat =
        (if n = 0xE0 then 0xA0 else if n = 0xF0 then 0x90 else 0x80) ∧
      (secondBounds (UInt8.ofNat n)).2.toNat =
        (if n = 0xED then 0x9F else if n = 0xF4 then 0x8F else 0xBF) := by
  have hne : ∀ k : Nat, k < 256 → (UInt8.ofNat n = UInt8.ofNat k ↔ n = k) := by
    intro k hk
    rw [← UInt8.toNat_inj, toNat_byte h, toNat_byte hk]
  have hE0 : UInt8.ofNat n = 0xE0 ↔ n = 0xE0 := hne 0xE0 (by decide)
  have hED : UInt8.ofNat n = 0xED ↔ n = 0xED := hne 0xED (by decide)
  have hF0 : UInt8.ofNat n = 0xF0 ↔ n = 0xF0 := hne 0xF0 (by decide)
  have hF4 : UInt8.ofNat n = 0xF4 ↔ n = 0xF4 := hne 0xF4 (by decide)
  unfold secondBounds
  simp only [hE0, hED, hF0, hF4]
  by_cases h0 : n = 0xE0
  · subst h0
    exact ⟨rfl, rfl⟩
  · by_cases hD : n = 0xED
    · subst hD
      exact ⟨rfl, rfl⟩
    · by_cases h1 : n = 0xF0
      · subst h1
        exact ⟨rfl, rfl⟩
      · by_cases h4 : n = 0xF4
        · subst h4
          exact ⟨rfl, rfl⟩
        · simp [h0, hD, h1, h4]

/-! ## One character -/

/-- The number of a character is no surrogate and not beyond the last character. -/
theorem toNat_valid (c : Char) : c.toNat < 0xD800 ∨ 0xDFFF < c.toNat ∧ c.toNat < 0x110000 :=
  c.valid

private theorem scan_two (n : Nat) (hlow : 0x80 ≤ n) (hhigh : n < 0x800) (rest : Bytes) :
    scan (UInt8.ofNat (0xC0 + n / 0x40) :: tailByte n :: rest) = .char (Char.ofNat n) 2 := by
  have hbyte : 0xC0 + n / 0x40 < 256 := by omega
  have hann : announced (UInt8.ofNat (0xC0 + n / 0x40)) = some 2 := by
    rw [announced_byte hbyte, if_neg (by omega), if_pos (by omega)]
  have hbounds := secondBounds_byte hbyte
  rw [if_neg (by omega), if_neg (by omega), if_neg (by omega), if_neg (by omega)] at hbounds
  have htail := toNat_tailByte n
  rw [scan_of_second hann (by decide) (by omega) (by omega)]
  unfold firstBits
  rw [if_pos rfl, toNat_byte hbyte, htail, Nat.add_sub_cancel_left, Nat.add_sub_cancel_left]
  show scanTail _ 2 0 rest = _
  rw [scanTail_zero]
  congr 2
  omega

private theorem scan_three (n : Nat) (hlow : 0x800 ≤ n) (hhigh : n < 0x10000)
    (hvalid : n < 0xD800 ∨ 0xDFFF < n) (rest : Bytes) :
    scan (UInt8.ofNat (0xE0 + n / 0x1000) :: tailByte (n / 0x40) :: tailByte n :: rest) =
      .char (Char.ofNat n) 3 := by
  have hbyte : 0xE0 + n / 0x1000 < 256 := by omega
  have hann : announced (UInt8.ofNat (0xE0 + n / 0x1000)) = some 3 := by
    rw [announced_byte hbyte, if_neg (by omega), if_neg (by omega), if_pos (by omega)]
  have hbounds := secondBounds_byte hbyte
  have htail := toNat_tailByte (n / 0x40)
  have hsecond : (secondBounds (UInt8.ofNat (0xE0 + n / 0x1000))).1.toNat ≤
        (tailByte (n / 0x40)).toNat ∧
      (tailByte (n / 0x40)).toNat ≤
        (secondBounds (UInt8.ofNat (0xE0 + n / 0x1000))).2.toNat := by
    rw [hbounds.1, hbounds.2, htail]
    constructor
    · split
      · omega
      · split <;> omega
    · split
      · omega
      · split <;> omega
  rw [scan_of_second hann (by decide) hsecond.1 hsecond.2]
  unfold firstBits
  rw [if_neg (by decide), if_pos rfl, toNat_byte hbyte, htail]
  show scanTail _ 2 (0 + 1) (tailByte n :: rest) = _
  rw [scanTail_tailByte]
  rw [scanTail_zero]
  congr 2
  omega

private theorem scan_four (n : Nat) (hlow : 0x10000 ≤ n) (hhigh : n < 0x110000) (rest : Bytes) :
    scan (UInt8.ofNat (0xF0 + n / 0x40000) :: tailByte (n / 0x1000) :: tailByte (n / 0x40) ::
      tailByte n :: rest) = .char (Char.ofNat n) 4 := by
  have hbyte : 0xF0 + n / 0x40000 < 256 := by omega
  have hann : announced (UInt8.ofNat (0xF0 + n / 0x40000)) = some 4 := by
    rw [announced_byte hbyte, if_neg (by omega), if_neg (by omega), if_neg (by omega),
      if_pos (by omega)]
  have hbounds := secondBounds_byte hbyte
  have htail := toNat_tailByte (n / 0x1000)
  have hsecond : (secondBounds (UInt8.ofNat (0xF0 + n / 0x40000))).1.toNat ≤
        (tailByte (n / 0x1000)).toNat ∧
      (tailByte (n / 0x1000)).toNat ≤
        (secondBounds (UInt8.ofNat (0xF0 + n / 0x40000))).2.toNat := by
    rw [hbounds.1, hbounds.2, htail]
    constructor
    · split
      · omega
      · split <;> omega
    · split
      · omega
      · split <;> omega
  rw [scan_of_second hann (by decide) hsecond.1 hsecond.2]
  unfold firstBits
  rw [if_neg (by decide), if_neg (by decide), toNat_byte hbyte, htail]
  show scanTail _ 2 (1 + 1) (tailByte (n / 0x40) :: tailByte n :: rest) = _
  rw [scanTail_tailByte]
  show scanTail _ 3 (0 + 1) (tailByte n :: rest) = _
  rw [scanTail_tailByte]
  rw [scanTail_zero]
  congr 2
  omega

/-- The bytes of a character are read as that character, whatever follows them. -/
theorem scan_encodeChar (c : Char) (rest : Bytes) :
    scan (encodeChar c ++ rest) = .char c (encodeChar c).length := by
  have hvalid := toNat_valid c
  have hback : Char.ofNat c.toNat = c := Char.ofNat_toNat c
  unfold encodeChar
  dsimp only
  split
  · rename_i h
    have hann : announced (UInt8.ofNat c.toNat) = some 1 := by
      rw [announced_byte (by omega), if_pos (by omega)]
    show scan (UInt8.ofNat c.toNat :: rest) = .char c 1
    unfold scan
    dsimp only
    rw [hann]
    show Scan.char (Char.ofNat (UInt8.ofNat c.toNat).toNat) 1 = _
    rw [toNat_byte (by omega), hback]
  · split
    · rename_i h
      exact (scan_two c.toNat (by omega) h rest).trans (by rw [hback]; rfl)
    · split
      · rename_i h
        exact (scan_three c.toNat (by omega) h (by omega) rest).trans (by rw [hback]; rfl)
      · exact (scan_four c.toNat (by omega) (by omega) rest).trans (by rw [hback]; rfl)

theorem encodeChar_ne_nil (c : Char) : encodeChar c ≠ [] := by
  unfold encodeChar
  dsimp only
  split
  · simp
  · split
    · simp
    · split <;> simp

/-! ## A text -/

/-- Bytes that belong to the last character are passed over. -/
theorem decodeFrom_skip (index : Nat) (passed rest : Bytes) :
    decodeFrom index passed.length (passed ++ rest) =
      decodeFrom (index + passed.length) 0 rest := by
  induction passed generalizing index with
  | nil => rfl
  | cons b passed ih =>
    show decodeFrom (index + 1) passed.length (passed ++ rest) = _
    rw [ih, List.length_cons, Nat.add_right_comm, Nat.add_assoc]

theorem decodeFrom_encodeChar (index : Nat) (c : Char) (rest : Bytes) :
    decodeFrom index 0 (encodeChar c ++ rest) =
      (decodeFrom (index + (encodeChar c).length) 0 rest).map (c :: ·) := by
  have hscan := scan_encodeChar c rest
  obtain ⟨first, tail, hbytes⟩ := List.exists_cons_of_ne_nil (encodeChar_ne_nil c)
  rw [hbytes, List.cons_append] at hscan ⊢
  rw [decodeFrom, hscan]
  show (decodeFrom (index + 1) ((first :: tail).length - 1) (tail ++ rest)).map (c :: ·) = _
  rw [List.length_cons, Nat.add_sub_cancel, decodeFrom_skip, Nat.add_right_comm, Nat.add_assoc]

theorem decodeFrom_encode (index : Nat) (s : Text) : decodeFrom index 0 (encode s) = .ok s := by
  induction s generalizing index with
  | nil => rfl
  | cons c rest ih =>
    show decodeFrom index 0 (encodeChar c ++ encode rest) = _
    rw [decodeFrom_encodeChar, ih]
    rfl

/-- The bytes of a text are read back as the text. -/
theorem decode_encode (s : Text) : decode (encode s) = .ok s :=
  decodeFrom_encode 0 s

theorem encode_append (s t : Text) : encode (s ++ t) = encode s ++ encode t :=
  List.flatMap_append

/-- Bytes that belong to the last character are passed over. -/
theorem decodeLossyFrom_skip (passed rest : Bytes) :
    decodeLossyFrom passed.length (passed ++ rest) = decodeLossyFrom 0 rest := by
  induction passed with
  | nil => rfl
  | cons b passed ih => exact ih

theorem decodeLossy_encodeChar (c : Char) (rest : Bytes) :
    decodeLossy (encodeChar c ++ rest) = c :: decodeLossy rest := by
  have hscan := scan_encodeChar c rest
  obtain ⟨first, tail, hbytes⟩ := List.exists_cons_of_ne_nil (encodeChar_ne_nil c)
  rw [hbytes, List.cons_append] at hscan ⊢
  unfold decodeLossy
  rw [decodeLossyFrom, hscan]
  show c :: decodeLossyFrom ((first :: tail).length - 1) (tail ++ rest) = _
  rw [List.length_cons, Nat.add_sub_cancel, decodeLossyFrom_skip]

/-- There are no faults in the bytes of a text. -/
theorem decodeLossy_encode (s : Text) : decodeLossy (encode s) = s := by
  induction s with
  | nil => rfl
  | cons c rest ih =>
    show decodeLossy (encodeChar c ++ encode rest) = _
    rw [decodeLossy_encodeChar, ih]

theorem encode_eq_nil_iff {s : Text} : encode s = [] ↔ s = [] := by
  constructor
  · intro hnil
    cases s with
    | nil => rfl
    | cons c rest =>
      have hchar := (List.append_eq_nil_iff.1 (show encodeChar c ++ encode rest = [] from hnil)).1
      exact absurd hchar (encodeChar_ne_nil c)
  · rintro rfl
    rfl

end AnidbClient.Text.Utf8
