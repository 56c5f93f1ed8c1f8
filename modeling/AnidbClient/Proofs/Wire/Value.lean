import AnidbClient.Proofs.Text.Replace
import AnidbClient.Wire.Value

/-!
# What a value is read back as

A value is written character by character and read by three exchanges, one after the other, over
the whole text.  What one exchange leaves can neither form nor break what the next one looks for:

* every ampersand that was written starts an `&amp;`, so restoring the ampersands leaves the line
  feeds as they were written and all else as it was (`replaceAll_ampersand_encode`);
* no `<br />` begins in literal text and ends in a written line feed, for its first character
  stands nowhere else in it (`replaceAll_newline_broken`).

So a value comes back but for what the notation cannot tell apart (`decode_encode_eq`).
-/

namespace AnidbClient.Wire

/-- A value without its carriage returns. -/
def withoutReturns (v : Text) : Text :=
  v.filter (· ≠ '\r')

/-- A text with its line feeds as they are written. -/
def broken (w : Text) : Text :=
  w.flatMap fun c => if c = '\n' then encodedNewline else [c]

/-- A character as it is meant in a reply. -/
def unquoted (c : Char) : Char :=
  if c = encodedQuote then '\'' else c

/-! ## Writing -/

theorem encode_cons (c : Char) (v : Text) : encode (c :: v) = encodeChar c ++ encode v := rfl

/-- Carriage returns are not written. -/
theorem encode_withoutReturns (v : Text) : encode (withoutReturns v) = encode v := by
  induction v with
  | nil => rfl
  | cons c v ih =>
    unfold withoutReturns at ih ⊢
    by_cases hc : c = '\r'
    · subst hc
      exact ih
    · rw [List.filter_cons_of_pos (by simpa using hc), encode_cons, encode_cons, ih]

/-- A character that is written goes out as it is, or as a longer text. -/
theorem encodeChar_cases {c : Char} (hc : c ≠ '\r') :
    encodeChar c = [c] ∨ 1 < (encodeChar c).length := by
  by_cases hampersand : c = '&'
  · subst hampersand
    exact .inr (by decide)
  · by_cases hfeed : c = '\n'
    · subst hfeed
      exact .inr (by decide)
    · exact .inl (encodeChar_eq_self ⟨hampersand, hfeed, hc⟩)

theorem eq_nil_of_encode_eq_nil {w : Text} (hw : '\r' ∉ w) (hencode : encode w = []) : w = [] := by
  cases w with
  | nil => rfl
  | cons c w =>
    rw [List.mem_cons, not_or] at hw
    have hnil : encodeChar c = [] := (List.append_eq_nil_iff.1 hencode).1
    rcases encodeChar_cases (Ne.symm hw.1) with hself | hlong
    · rw [hself] at hnil
      cases hnil
    · rw [hnil] at hlong
      cases hlong

/-- Only the separator is written as one. -/
theorem encode_eq_separator_iff {w : Text} (hw : '\r' ∉ w) :
    encode w = encodedSeparator ↔ w = encodedSeparator := by
  constructor
  · intro hencode
    cases w with
    | nil => cases hencode
    | cons c w =>
      rw [List.mem_cons, not_or] at hw
      rw [encode_cons] at hencode
      rcases encodeChar_cases (Ne.symm hw.1) with hself | hlong
      · rw [hself] at hencode
        obtain ⟨rfl, hrest⟩ := List.cons.inj hencode
        rw [eq_nil_of_encode_eq_nil hw.2 hrest]
        rfl
      · have hlength : (encodeChar c).length + (encode w).length = 1 := by
          rw [← List.length_append, hencode]
          rfl
        omega
  · rintro rfl
    rfl

/-! ## Restoring ampersands -/

theorem broken_cons_of_ne {c : Char} (hc : c ≠ '\n') (w : Text) :
    broken (c :: w) = c :: broken w := by
  simp [broken, hc]

/-- With the ampersands restored, the line feeds are still written, and nothing else is. -/
theorem replaceAll_ampersand_encode {w : Text} (hw : '\r' ∉ w) :
    Text.replaceAll encodedAmpersand ['&'] (encode w) = broken w := by
  induction w with
  | nil => rfl
  | cons c w ih =>
    rw [List.mem_cons, not_or] at hw
    rw [encode_cons]
    by_cases hampersand : c = '&'
    · subst hampersand
      show Text.replaceAll encodedAmpersand ['&'] (encodedAmpersand ++ encode w) = _
      rw [Text.replaceAll_append_self _ (by decide), ih hw.2]
      rfl
    · by_cases hfeed : c = '\n'
      · subst hfeed
        show Text.replaceAll encodedAmpersand ['&'] (encodedNewline ++ encode w) = _
        have hliteral : '&' ∉ encodedNewline := by decide
        rw [show encodedAmpersand = '&' :: "amp;".toList from rfl,
          Text.replaceAll_append_of_not_mem _ hliteral]
        rw [show Text.replaceAll ('&' :: "amp;".toList) ['&'] (encode w) = broken w from ih hw.2]
        rfl
      · have hno : ¬ encodedAmpersand <+: c :: encode w := by
          intro hfront
          exact hampersand (List.cons_prefix_cons.1 hfront).1.symm
        rw [encodeChar_eq_self ⟨hampersand, hfeed, Ne.symm hw.1⟩, List.singleton_append,
          Text.replaceAll_cons_of_not_front _ hno, ih hw.2, broken_cons_of_ne hfeed]

/-! ## Restoring line feeds -/

/-- Where line feeds are written, a piece without the first character of a written line feed stands
in front only if it did so before. -/
theorem prefix_of_prefix_broken {piece w : Text} (hpiece : '<' ∉ piece)
    (hfront : piece <+: broken w) : piece <+: w := by
  induction w generalizing piece with
  | nil => exact hfront
  | cons c w ih =>
    cases piece with
    | nil => exact List.nil_prefix
    | cons p piece =>
      rw [List.mem_cons, not_or] at hpiece
      by_cases hfeed : c = '\n'
      · subst hfeed
        exact absurd (List.cons_prefix_cons.1 hfront).1.symm hpiece.1
      · rw [broken_cons_of_ne hfeed, List.cons_prefix_cons] at hfront
        exact List.cons_prefix_cons.2 ⟨hfront.1, ih hpiece.2 hfront.2⟩

/-- Restoring line feeds does not tell those that were written from the text that looks like
one. -/
theorem replaceAll_newline_broken (w : Text) :
    Text.replaceAll encodedNewline ['\n'] (broken w) =
      Text.replaceAll encodedNewline ['\n'] w := by
  induction hlength : w.length using Nat.strongRecOn generalizing w with
  | _ n ih =>
    subst hlength
    by_cases hfront : encodedNewline <+: w
    · obtain ⟨rest, rfl⟩ := hfront
      have hrest : rest.length < (encodedNewline ++ rest).length := by
        rw [List.length_append]
        exact Nat.lt_add_of_pos_left (by decide)
      show Text.replaceAll encodedNewline ['\n'] (encodedNewline ++ broken rest) = _
      rw [Text.replaceAll_append_self _ (by decide), Text.replaceAll_append_self _ (by decide),
        ih _ hrest rest rfl]
    · cases w with
      | nil => rfl
      | cons c rest =>
        have hrest : rest.length < (c :: rest).length := Nat.lt_succ_self _
        rw [Text.replaceAll_cons_of_not_front _ hfront, ← ih _ hrest rest rfl]
        by_cases hfeed : c = '\n'
        · subst hfeed
          exact Text.replaceAll_append_self _ (by decide) (broken rest)
        · have hno : ¬ encodedNewline <+: c :: broken rest := by
            intro hbroken
            obtain ⟨hc, htail⟩ := List.cons_prefix_cons.1 hbroken
            exact hfront (List.cons_prefix_cons.2 ⟨hc, prefix_of_prefix_broken (by decide) htail⟩)
          rw [broken_cons_of_ne hfeed, Text.replaceAll_cons_of_not_front _ hno]

/-! ## The round trip -/

theorem not_mem_withoutReturns (v : Text) : '\r' ∉ withoutReturns v := by
  simp [withoutReturns]

/-- A value is read back without its carriage returns, and with each text `<br />` as a line feed
and each backtick as an apostrophe; a value that is nothing but a slash is read as a bar. -/
theorem decode_encode_eq (v : Text) :
    decode (encode v) =
      if withoutReturns v = encodedSeparator then [fieldSeparator]
      else (Text.replaceAll encodedNewline ['\n'] (withoutReturns v)).map unquoted := by
  have hw := not_mem_withoutReturns v
  rw [← encode_withoutReturns]
  unfold decode
  rw [replaceAll_ampersand_encode hw, replaceAll_newline_broken]
  simp only [encode_eq_separator_iff hw]
  rfl

/-- A value without its carriage returns is made of parts without the text `<br />`, and that text
between each two of them.  It is read back with line feeds between the parts and apostrophes for
backticks, unless it is nothing but a slash, which is read as a bar.  So a value that holds none of
these comes back as it was. -/
theorem decode_encode_normal (v : Text) :
    (∃ parts, withoutReturns v = List.intercalate encodedNewline parts ∧
      (∀ part ∈ parts, ¬ encodedNewline <:+: part) ∧
      decode (encode v) =
        if withoutReturns v = encodedSeparator then [fieldSeparator]
        else (List.intercalate ['\n'] parts).map unquoted) ∧
    ('\r' ∉ v → encodedQuote ∉ v → ¬ encodedNewline <:+: v → v ≠ encodedSeparator →
      decode (encode v) = v) := by
  constructor
  · obtain ⟨first, parts, heq, hparts⟩ :=
      @Text.exists_eq_intercalate encodedNewline (by decide) (withoutReturns v)
    refine ⟨first :: parts, heq, hparts, ?_⟩
    have hreplaced : Text.replaceAll encodedNewline ['\n'] (withoutReturns v) =
        List.intercalate ['\n'] (first :: parts) := by
      rw [heq]
      exact Text.replaceAll_intercalate ['\n'] (by decide) hparts
    rw [decode_encode_eq, hreplaced]
  · intro hreturn hquote hnewline hseparator
    have hkept : withoutReturns v = v := by
      refine List.filter_eq_self.2 fun c hc => ?_
      have hne : c ≠ '\r' := by
        rintro rfl
        exact hreturn hc
      simpa using hne
    have hunquoted : ∀ c ∈ v, unquoted c = c := by
      intro c hc
      refine if_neg ?_
      rintro rfl
      exact hquote hc
    rw [decode_encode_eq, hkept, if_neg hseparator, Text.replaceAll_of_not_inside _ hnewline,
      List.map_congr_left hunquoted, List.map_id']

/-- Text that looks half encoded: an encoded ampersand, a doubly encoded one, and the beginning of
an encoded line feed in front of a real one. -/
def halfEncoded : Text :=
  "&amp; &amp;amp; <br \n<br /\n>/"

theorem decode_encode_halfEncoded :
    '\r' ∉ halfEncoded ∧ encodedQuote ∉ halfEncoded ∧ ¬ encodedNewline <:+: halfEncoded ∧
      decode (encode halfEncoded) = halfEncoded :=
  ⟨by decide, by decide, by decide,
    (decode_encode_normal halfEncoded).2 (by decide) (by decide) (by decide) (by decide)⟩

end AnidbClient.Wire
