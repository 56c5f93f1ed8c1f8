import AnidbClient.Proofs.Text.Numeral
import AnidbClient.Proofs.Text.Pieces
import AnidbClient.Proofs.Text.Utf8
import AnidbClient.Reply
import Mathlib.Data.List.TakeWhile

/-!
# The tag of a reply

Reading a reply cuts it at the end of a token, and `token_eq_iff` says what a cut is.

A reply that starts with a tag and a blank is read as a reply with that tag (`read_tagged`).  The
bytes of a tag, a blank, a number and what follows it can be read as a reply
(`exists_ofDatagram`); the line ends that are dropped behind it never reach the number.
-/

namespace AnidbClient

theorem Wire.unpack_encode {s : Text} (hs : s ≠ []) :
    Wire.unpack (Text.Utf8.encode s) = .ok (Text.trimRightWhen Wire.isLineEnd s) := by
  unfold Wire.unpack
  rw [if_neg (fun hnil => hs (Text.Utf8.encode_eq_nil_iff.1 hnil)), Text.Utf8.decode_encode]

namespace Reply

/-! ## Cutting behind a token -/

theorem eq_of_endsToken {c : Char} (hc : endsToken c = true) : c = ' ' ∨ c = '\n' := by
  simpa [endsToken] using hc

/-- What stands behind a token, and what is left of it: a blank is taken off, and a line feed
stays. -/
inductive Behind : Text → Text → Prop where
  | nothing : Behind [] []
  | blank (rest : Text) : Behind (' ' :: rest) rest
  | feed (more : Text) : Behind ('\n' :: more) ('\n' :: more)

/-- What stands behind a token starts with the end of it. -/
theorem Behind.token_append {first behind rest : Text} (hbehind : Behind behind rest)
    (hfirst : ∀ c ∈ first, endsToken c = false) : token (first ++ behind) = (first, rest) := by
  have hinside : ∀ c ∈ first, (!endsToken c) = true := by
    intro c hc
    rw [hfirst c hc]
    rfl
  unfold token
  rw [List.takeWhile_append_of_pos hinside, List.dropWhile_append_of_pos hinside]
  cases hbehind with
  | nothing => rw [List.takeWhile_nil, List.append_nil]; rfl
  | blank => simp [endsToken, dropBlank]
  | feed => simp [endsToken, dropBlank]

theorem behind_dropWhile (s : Text) :
    Behind (s.dropWhile fun c => !endsToken c) (dropBlank (s.dropWhile fun c => !endsToken c)) := by
  induction s with
  | nil => exact .nothing
  | cons c s ih =>
    cases hc : endsToken c with
    | false =>
      rw [List.dropWhile_cons_of_pos (by rw [hc]; rfl)]
      exact ih
    | true =>
      rw [List.dropWhile_cons_of_neg (by rw [hc]; decide)]
      rcases eq_of_endsToken hc with rfl | rfl
      · exact .blank s
      · exact .feed s

/-- A cut puts nothing into the token that ends one, and loses no more than a blank. -/
theorem token_eq_iff {s first rest : Text} :
    token s = (first, rest) ↔
      (∀ c ∈ first, endsToken c = false) ∧ ∃ behind, s = first ++ behind ∧ Behind behind rest := by
  constructor
  · intro h
    obtain ⟨rfl, rfl⟩ := Prod.mk.inj h
    refine ⟨?_, _, List.takeWhile_append_dropWhile.symm, behind_dropWhile s⟩
    intro c hc
    simpa using List.mem_takeWhile_imp hc
  · rintro ⟨hfirst, behind, rfl, hbehind⟩
    exact hbehind.token_append hfirst

/-! ## Tags -/

/-- A text that can stand as a tag: one token, and none that would be taken for a code. -/
structure IsTag (tag : Text) : Prop where
  ne_nil : tag ≠ []
  one_token : ∀ c ∈ tag, endsToken c = false
  no_digit : startsWithDigit tag = false

theorem token_append {first : Text} (hfirst : ∀ c ∈ first, endsToken c = false) (rest : Text) :
    token (first ++ ' ' :: rest) = (first, rest) :=
  (Behind.blank rest).token_append hfirst

/-- A tag and a blank in front of a text are read as the tag of a reply. -/
theorem read_tagged {tag : Text} (htag : IsTag tag) (rest : Text) :
    read (tag ++ ' ' :: rest) = ofCode (some tag) (token rest).1 (token rest).2 := by
  unfold read
  rw [token_append htag.one_token]
  dsimp only
  rw [if_neg htag.ne_nil, htag.no_digit, if_neg Bool.false_ne_true]

/-- The code of a reply ends where a token ends. -/
theorem token_fst {code body : Text} (hcode : ∀ c ∈ code, endsToken c = false)
    (hbody : ∀ c rest, body = c :: rest → endsToken c = true) :
    (token (code ++ body)).1 = code := by
  have hbehind : ∃ rest, Behind body rest := by
    cases body with
    | nil => exact ⟨_, .nothing⟩
    | cons c rest =>
      rcases eq_of_endsToken (hbody c rest rfl) with rfl | rfl
      · exact ⟨_, .blank rest⟩
      · exact ⟨_, .feed rest⟩
  obtain ⟨rest, hbehind⟩ := hbehind
  rw [hbehind.token_append hcode]

/-- The bytes of a tag, a blank, a number and what follows it are a reply with that tag and that
number. -/
theorem exists_ofDatagram {tag code body : Text} {n : UInt16} (htag : IsTag tag)
    (hcode : Text.u16? code = some n) (hbody : ∀ c rest, body = c :: rest → endsToken c = true) :
    ∃ reply, ofDatagram (Text.Utf8.encode (tag ++ ' ' :: (code ++ body))) = .ok reply ∧
      reply.tag = some tag ∧ reply.code = .ofNumber n := by
  have hblank : ' ' ∉ code := Text.not_mem_of_u16? hcode (by decide) (by decide)
  have hfeed : '\n' ∉ code := Text.not_mem_of_u16? hcode (by decide) (by decide)
  have hreturn : '\r' ∉ code := Text.not_mem_of_u16? hcode (by decide) (by decide)
  have htrim : Text.trimRightWhen Wire.isLineEnd (code ++ body) =
      code ++ Text.trimRightWhen Wire.isLineEnd body := by
    rcases List.eq_nil_or_concat code with rfl | ⟨front, last, rfl⟩
    · cases hcode
    · have hlast : Wire.isLineEnd last = false := by
        simp only [List.concat_eq_append, List.mem_append, List.mem_singleton, not_or] at hfeed
        simp only [List.concat_eq_append, List.mem_append, List.mem_singleton, not_or] at hreturn
        simp [Wire.isLineEnd, Ne.symm hfeed.2, Ne.symm hreturn.2]
      rw [List.concat_eq_append, List.append_assoc, List.singleton_append,
        Text.trimRightWhen_append hlast, List.append_assoc, List.singleton_append]
  have hends : ∀ c ∈ code, endsToken c = false := by
    intro c hc
    have hne : c ≠ ' ' ∧ c ≠ '\n' := by
      constructor <;> rintro rfl <;> contradiction
    simp [endsToken, hne.1, hne.2]
  have htoken : (token (code ++ Text.trimRightWhen Wire.isLineEnd body)).1 = code := by
    apply token_fst hends
    intro c rest heq
    obtain ⟨more, hmore⟩ := Text.trimRightWhen_prefix Wire.isLineEnd body
    rw [heq] at hmore
    exact hbody c (rest ++ more) hmore.symm
  refine ⟨⟨some tag, .ofNumber n, (token (code ++ Text.trimRightWhen Wire.isLineEnd body)).2⟩,
    ?_, rfl, rfl⟩
  unfold ofDatagram
  rw [Wire.unpack_encode (by simp), Text.trimRightWhen_append (by decide), htrim]
  show read (tag ++ ' ' :: (code ++ Text.trimRightWhen Wire.isLineEnd body)) = _
  rw [read_tagged htag, htoken]
  unfold ofCode
  rw [hcode]

end Reply

end AnidbClient
