import AnidbClient.Proofs.Reply

/-!
# The grammar of replies

    [tag SP] code [SP body]                [tag SP] code [LF more-of-the-body]

`Spells` says when a text is a reply: a tag and a blank in front if it has one, a code, and the
body.  The blank in front of a body is no part of it, a line feed is.  A code may have leading
zeros.  It may have a plus sign if there is a tag in front of it; without one the token with the
sign would be the tag.

Reading takes what is spelled, for what it is, and nothing else (`read_eq_ok_iff`).
-/

namespace AnidbClient.Reply

/-- What stands in front of the code: the tag and a blank, or nothing. -/
def front : Option Text → Text
  | none => []
  | some tag => tag ++ [' ']

/-- A token for the code with this number: a numeral, behind a tag perhaps with a plus sign. -/
inductive IsCodeToken (n : UInt16) : Option Text → Text → Prop where
  | numeral {tag : Option Text} {code : Text} (hcode : Text.IsNumeral n.toNat code) :
      IsCodeToken n tag code
  | signed {tag code : Text} (hcode : Text.IsNumeral n.toNat code) :
      IsCodeToken n (some tag) ('+' :: code)

/-- The text is this reply. -/
structure Spells (s : Text) (r : Reply) : Prop where
  tag : ∀ tag, r.tag = some tag → IsTag tag
  code : r.code = .ofNumber r.code.number
  text : ∃ code behind, s = front r.tag ++ (code ++ behind) ∧
    IsCodeToken r.code.number r.tag code ∧ Behind behind r.body

section Spells

variable {n : UInt16} {tag : Option Text} {code : Text}

/-- Behind a tag a code token is what reads as its number. -/
theorem isCodeToken_some_iff {t : Text} :
    IsCodeToken n (some t) code ↔ Text.u16? code = some n := by
  rw [Text.u16?_eq_some_iff]
  constructor
  · intro h
    cases h with
    | numeral hcode => exact .inl hcode
    | signed hcode => exact .inr ⟨_, rfl, hcode⟩
  · rintro (hcode | ⟨rest, rfl, hcode⟩)
    · exact .numeral hcode
    · exact .signed hcode

/-- In front of a text it has to start with a digit as well. -/
theorem isCodeToken_none_iff :
    IsCodeToken n none code ↔ Text.u16? code = some n ∧ startsWithDigit code = true := by
  rw [Text.u16?_eq_some_iff]
  constructor
  · intro h
    cases h with
    | numeral hcode =>
      refine ⟨.inl hcode, ?_⟩
      cases code with
      | nil => exact absurd rfl hcode.ne_nil
      | cons c rest => exact hcode.isSome_digit? c List.mem_cons_self
  · rintro ⟨hcode | ⟨rest, rfl, _⟩, hdigit⟩
    · exact .numeral hcode
    · cases hdigit

theorem IsCodeToken.u16?_eq (hcode : IsCodeToken n tag code) : Text.u16? code = some n := by
  cases tag with
  | none => exact (isCodeToken_none_iff.1 hcode).1
  | some t => exact isCodeToken_some_iff.1 hcode

/-- A code is one token. -/
theorem IsCodeToken.one_token (hcode : IsCodeToken n tag code) :
    ∀ c ∈ code, endsToken c = false := by
  intro c hc
  refine Bool.eq_false_iff.2 fun hends => ?_
  rcases eq_of_endsToken hends with rfl | rfl
  · exact Text.not_mem_of_u16? hcode.u16?_eq (by decide) (by decide) hc
  · exact Text.not_mem_of_u16? hcode.u16?_eq (by decide) (by decide) hc

variable {s : Text} {r : Reply}

theorem ofCode_eq_ok_iff {first body : Text} :
    ofCode tag first body = .ok r ↔
      ∃ n, Text.u16? first = some n ∧ r = ⟨tag, .ofNumber n, body⟩ := by
  unfold ofCode
  cases Text.u16? first with
  | none => simp
  | some n => simp [eq_comm]

/-- What is read as a reply spells it. -/
theorem spells_of_read (hread : read s = .ok r) : Spells s r := by
  unfold read at hread
  cases hfirst : token s with
  | mk first rest =>
    rw [hfirst] at hread
    dsimp only at hread
    obtain ⟨hone, behind, rfl, hbehind⟩ := token_eq_iff.1 hfirst
    split at hread
    · cases hread
    · rename_i hne
      split at hread
      · rename_i hdigit
        obtain ⟨n, hn, rfl⟩ := ofCode_eq_ok_iff.1 hread
        have hnumber := ReturnCode.number_ofNumber n
        refine ⟨?_, by rw [hnumber], first, behind, rfl, ?_, hbehind⟩
        · rintro tag ⟨⟩
        · rw [hnumber]
          exact isCodeToken_none_iff.2 ⟨hn, hdigit⟩
      · rename_i hdigit
        obtain ⟨n, hn, rfl⟩ := ofCode_eq_ok_iff.1 hread
        have hnumber := ReturnCode.number_ofNumber n
        -- Only a blank leaves a code behind the tag.
        cases hbehind with
        | nothing => cases hn
        | feed more => cases hn
        | blank =>
          obtain ⟨_, behind, heq, hbehind⟩ := token_eq_iff.1 (Prod.eta (token rest)).symm
          refine ⟨?_, by rw [hnumber], (token rest).1, behind, ?_, ?_, hbehind⟩
          · rintro tag ⟨⟩
            exact ⟨hne, hone, Bool.eq_false_iff.2 hdigit⟩
          · rw [← heq, front, List.append_assoc]
            rfl
          · rw [hnumber]
            exact isCodeToken_some_iff.2 hn

/-- What spells a reply is read as it. -/
theorem Spells.read_eq (hspells : Spells s r) : read s = .ok r := by
  obtain ⟨tag, code, body⟩ := r
  obtain ⟨htag, hnumber, token', behind, rfl, htoken, hbehind⟩ := hspells
  have hcut : token (token' ++ behind) = (token', body) := hbehind.token_append htoken.one_token
  have hcode : ofCode tag token' body = .ok ⟨tag, code, body⟩ :=
    ofCode_eq_ok_iff.2 ⟨code.number, htoken.u16?_eq, by rw [← hnumber]⟩
  cases tag with
  | none =>
    have hdigit := (isCodeToken_none_iff.1 htoken).2
    have hne : token' ≠ [] := by
      rintro rfl
      cases hdigit
    unfold read
    rw [front, List.nil_append, hcut]
    dsimp only
    rw [if_neg hne, if_pos hdigit]
    exact hcode
  | some t =>
    rw [front, List.append_assoc, List.singleton_append, read_tagged (htag t rfl), hcut]
    exact hcode

theorem read_eq_ok_iff : read s = .ok r ↔ Spells s r :=
  ⟨spells_of_read, Spells.read_eq⟩

theorem fault_of_ofCode {first body : Text} {fault : DecodingFault}
    (hcode : ofCode tag first body = .error fault) : fault = .badCode first := by
  unfold ofCode at hcode
  split at hcode
  · exact (Except.error.inj hcode).symm
  · cases hcode

/-- What cannot be read as a reply starts with no token, or has none that is a code. -/
theorem fault_of_read {fault : DecodingFault} (hread : read s = .error fault) :
    fault = .emptyReply ∨ ∃ token, fault = .badCode token := by
  unfold read at hread
  dsimp only at hread
  split at hread
  · exact .inl (Except.error.inj hread).symm
  · split at hread
    · exact .inr ⟨_, fault_of_ofCode hread⟩
    · exact .inr ⟨_, fault_of_ofCode hread⟩

/-- A reply is spelled by what is written for it: its tag, the digits of its number, its body. -/
theorem spells_written (htag : ∀ t, tag = some t → IsTag t) (n : UInt16) {behind body : Text}
    (hbehind : Behind behind body) :
    Spells (front tag ++ (Text.digits n.toNat ++ behind)) ⟨tag, .ofNumber n, body⟩ where
  tag := htag
  code := by rw [ReturnCode.number_ofNumber]
  text := ⟨Text.digits n.toNat, behind, rfl, .numeral ⟨0, by rw [ReturnCode.number_ofNumber]; rfl⟩,
    hbehind⟩

end Spells

/-- Whatever is written as a reply is read back with its tag, its number and its body.  What is read
as a reply spells it, and what spells no reply is refused, for it is empty in front or has no code
where one has to be. -/
theorem read_by_grammar :
    (∀ (tag : Option Text) (n : UInt16) (body : Text), (∀ t, tag = some t → IsTag t) →
      read (front tag ++ (Text.digits n.toNat ++ ' ' :: body)) = .ok ⟨tag, .ofNumber n, body⟩ ∧
      read (front tag ++ (Text.digits n.toNat ++ '\n' :: body)) =
        .ok ⟨tag, .ofNumber n, '\n' :: body⟩ ∧
      (ReturnCode.ofNumber n).number = n) ∧
    (∀ s r, read s = .ok r ↔ Spells s r) ∧
    ∀ s, (∀ r, ¬ Spells s r) →
      (read s).mapError Error.decoding = .error (.decoding .emptyReply) ∨
        ∃ code, (read s).mapError Error.decoding = .error (.decoding (.badCode code)) := by
  refine ⟨?_, fun s r => read_eq_ok_iff, ?_⟩
  · intro tag n body htag
    exact ⟨(spells_written htag n (.blank body)).read_eq,
      (spells_written htag n (.feed body)).read_eq, ReturnCode.number_ofNumber n⟩
  · intro s hnone
    cases hread : read s with
    | ok r => exact absurd (read_eq_ok_iff.1 hread) (hnone r)
    | error fault =>
      rcases fault_of_read hread with rfl | ⟨code, rfl⟩
      · exact .inl rfl
      · exact .inr ⟨code, rfl⟩

/-- A tag may look like a number, if not like the start of one. -/
theorem read_signLikeTag :
    IsTag "+1".toList ∧
      read "+1 65535  \n".toList = .ok ⟨some "+1".toList, .ofNumber 65535, " \n".toList⟩ := by
  have htag : IsTag "+1".toList := ⟨by decide, by simp [endsToken], by decide⟩
  have hwritten : "+1 65535  \n".toList = front (some "+1".toList) ++
      (Text.digits (65535 : UInt16).toNat ++ ' ' :: " \n".toList) := by decide +kernel
  have hread := (read_by_grammar.1 (some "+1".toList) 65535 " \n".toList fun t ht => by
    cases ht
    exact htag).1
  rw [hwritten]
  exact ⟨htag, hread⟩

end AnidbClient.Reply
