import AnidbClient.Proofs.Text.Pieces
import AnidbClient.Proofs.Text.Reader
import AnidbClient.Settings.Section
import AnidbClient.Settings.Variable.Value
import Mathlib.Data.List.TakeWhile

/-!
# What the text of a variable stands for

The text of an environment variable stands for itself, unless the notation of values makes
something else of it.  `ReadsAs` lists all that it can make: truth values, numbers, lists and
tables are no texts any more; of a text in quotes the quotes go, and of one without quotes the
blanks around it.

`text?_read` says that these are read so, `read_eq_text` that every other text is read as it
stands, and `ReadsAs.ne` that nothing in the list is what was written.
-/

namespace AnidbClient.Settings.Variable

open Text Text.Reader

/-! ## Reading a whole text -/

/-- ASCII blanks, and nothing else. -/
def AreBlanks (s : Text) : Prop :=
  ∀ c ∈ s, isAsciiBlank c = true

/-- A text from the first character on that is no ASCII blank. -/
def start (p : Text) : Text :=
  p.dropWhile isAsciiBlank

/-- The reader makes this of a text, and takes all of it but the blanks around. -/
def Whole {α : Type} (r : Reader α) (p : Text) (a : α) : Prop :=
  ∃ rest, r (start p) = some (a, rest) ∧ AreBlanks rest

/-- What may stand within brackets and braces, of which `depth` are still allowed. -/
def inner : Nat → Reader Tree
  | 0 => failure
  | depth + 1 => value depth

theorem value_eq (depth : Nat) : value depth = valueWith (inner depth) := by
  cases depth <;> rfl

theorem areBlanks_iff {s : Text} : AreBlanks s ↔ start s = [] := by
  unfold AreBlanks start
  rw [List.dropWhile_eq_nil_iff]

theorem blanks_eq (s : Text) : blanks s = some ((), start s) := rfl

/-- A value is read between blanks. -/
theorem run?_value_eq_some_iff {depth : Nat} {p : Text} {t : Tree} :
    run? (value depth) p = some t ↔ Whole (truth <|> byFirst (inner depth)) p t := by
  rw [run?_eq_some_iff, value_eq]
  unfold valueWith Whole
  constructor
  · intro hread
    obtain ⟨_, _, hfront, hread⟩ := bind_eq_some_iff.1 hread
    obtain ⟨_, rfl⟩ := Prod.mk.inj (Option.some.inj ((blanks_eq p).symm.trans hfront))
    obtain ⟨t', rest, hvalue, hread⟩ := bind_eq_some_iff.1 hread
    obtain ⟨_, _, hback, hread⟩ := bind_eq_some_iff.1 hread
    obtain ⟨_, rfl⟩ := Prod.mk.inj (Option.some.inj ((blanks_eq rest).symm.trans hback))
    obtain ⟨rfl, hend⟩ := pure_eq_some_iff.1 hread
    exact ⟨rest, hvalue, areBlanks_iff.2 hend⟩
  · rintro ⟨rest, hvalue, hblanks⟩
    refine bind_eq_some_iff.2 ⟨(), start p, blanks_eq p, ?_⟩
    refine bind_eq_some_iff.2 ⟨t, rest, hvalue, ?_⟩
    refine bind_eq_some_iff.2 ⟨(), start rest, blanks_eq rest, ?_⟩
    exact pure_eq_some_iff.2 ⟨rfl, areBlanks_iff.1 hblanks⟩

theorem read_eq_of_whole {p : Text} {t : Tree}
    (hwhole : Whole (truth <|> byFirst (inner p.length)) p t) : read p = t := by
  unfold read
  rw [run?_value_eq_some_iff.2 hwhole]
  rfl

theorem read_eq_of_not_whole {p : Text}
    (hnone : ∀ t, ¬ Whole (truth <|> byFirst (inner p.length)) p t) : read p = .text p := by
  unfold read
  cases hrun : run? (value p.length) p with
  | none => rfl
  | some t => exact absurd (run?_value_eq_some_iff.1 hrun) (hnone t)

/-! ## Texts that begin a value -/

theorem word_eq_some {word s rest : Text} {a t : Tree}
    (hread : (do literal word; return a : Reader Tree) s = some (t, rest)) :
    s = word ++ rest ∧ a = t := by
  obtain ⟨u, mid, hword, hend⟩ := bind_eq_some_iff.1 hread
  obtain ⟨rfl, rfl⟩ := pure_eq_some_iff.1 hend
  exact ⟨literal_eq_some_iff.1 hword, rfl⟩

theorem truth_eq_some {s rest : Text} {t : Tree} (hread : truth s = some (t, rest)) :
    s = "true" ++ rest ∧ t = .bool true ∨ s = "false" ++ rest ∧ t = .bool false := by
  rcases orElse_eq_some_iff.1 hread with hread | ⟨-, hread⟩
  · obtain ⟨heq, rfl⟩ := word_eq_some hread
    exact .inl ⟨heq, rfl⟩
  · obtain ⟨heq, rfl⟩ := word_eq_some hread
    exact .inr ⟨heq, rfl⟩

/-- A text that begins with none of the truth values is told by its first character. -/
theorem truth_eq_none {s : Text} {c : Char} (hhead : s.head? = some c) (htrue : c ≠ 't')
    (hfalse : c ≠ 'f') : truth s = none := by
  obtain ⟨rest, rfl⟩ : ∃ rest, s = c :: rest := by
    cases s with
    | nil => cases hhead
    | cons d rest =>
      obtain rfl := Option.some.inj hhead
      exact ⟨rest, rfl⟩
  cases hread : truth (c :: rest) with
  | none => rfl
  | some x =>
    obtain ⟨t, back⟩ := x
    rcases truth_eq_some hread with ⟨heq, -⟩ | ⟨heq, -⟩
    · exact absurd (List.cons.inj heq).1 htrue
    · exact absurd (List.cons.inj heq).1 hfalse

section ByFirst

variable {item : Reader Tree} {s : Text}

theorem byFirst_of_quote (hhead : s.head? = some '"') :
    byFirst item s = (Tree.text <$> quoted) s := by
  unfold byFirst
  rw [hhead]
  rfl

theorem byFirst_of_apostrophe (hhead : s.head? = some '\'') :
    byFirst item s = (Tree.text <$> single) s := by
  unfold byFirst
  rw [hhead]
  rfl

theorem byFirst_of_bracket (hhead : s.head? = some '[') : byFirst item s = list item s := by
  unfold byFirst
  rw [hhead]
  rfl

theorem byFirst_of_brace (hhead : s.head? = some '\x7b') : byFirst item s = table item s := by
  unfold byFirst
  rw [hhead]
  rfl

/-- Any other beginning is that of a text without quotes. -/
theorem byFirst_of_other (hquote : s.head? ≠ some '"') (hapostrophe : s.head? ≠ some '\'')
    (hbracket : s.head? ≠ some '[') (hbrace : s.head? ≠ some '\x7b') :
    byFirst item s = bare s := by
  unfold byFirst
  split
  · exact absurd ‹_› hbrace
  · exact absurd ‹_› hbracket
  · exact absurd ‹_› hquote
  · exact absurd ‹_› hapostrophe
  · rfl

end ByFirst

theorem bare_eq (s : Text) :
    bare s = some (bareValue (trim (s.takeWhile fun c => !isSeparator c)),
      s.dropWhile fun c => !isSeparator c) := rfl

/-! ## Texts that do not stand for themselves -/

/-- A text without quotes: it begins no other value, and does not end before its end. -/
structure IsBare (p : Text) : Prop where
  no_separator : ∀ c ∈ p, isSeparator c = false
  no_quote : (start p).head? ≠ some '"'
  no_apostrophe : (start p).head? ≠ some '\''
  no_truth : truth (start p) = none

/-- A number: one with a point, or a whole one of sixty-four bits, with or without a sign. -/
def IsNumber (s : Text) : Prop :=
  isDecimal s = true ∨ (unsigned? UInt64.size s).isSome = true ∨ (i64? s).isSome = true

/-- What a text is read as, if not as itself; none where that is no text. -/
inductive ReadsAs (p : Text) : Option Text → Prop where
  | truth {t : Tree} (hwhole : Whole truth p t) : ReadsAs p none
  | number (hbare : IsBare p) (hnumber : IsNumber (trim p)) : ReadsAs p none
  | list {t : Tree} (hwhole : Whole (list (inner p.length)) p t) : ReadsAs p none
  | table {t : Tree} (hwhole : Whole (table (inner p.length)) p t) : ReadsAs p none
  /-- A text in double quotes loses them, and its escapes are exchanged. -/
  | quoted {s : Text} (hwhole : Whole quoted p s) : ReadsAs p (some s)
  /-- A single character loses its apostrophes. -/
  | single {s : Text} (hwhole : Whole single p s) : ReadsAs p (some s)
  /-- A text without quotes loses the blanks around it, those of Unicode included. -/
  | trimmed (hbare : IsBare p) (htext : ¬ IsNumber (trim p)) (hblank : trim p ≠ p) :
      ReadsAs p (some (trim p))

/-! ### Texts without quotes -/

theorem text?_bareValue_of_isNumber {s : Text} (hnumber : IsNumber s) :
    (bareValue s).text? = none := by
  unfold bareValue
  split
  · rfl
  · split
    · rfl
    · split
      · rfl
      · rename_i hdecimal _ hunsigned _ hsigned
        rcases hnumber with h | h | h
        · exact absurd h hdecimal
        · rw [hunsigned] at h
          cases h
        · rw [hsigned] at h
          cases h

theorem bareValue_of_not_isNumber {s : Text} (htext : ¬ IsNumber s) : bareValue s = .text s := by
  unfold IsNumber at htext
  rw [not_or, not_or] at htext
  obtain ⟨hdecimal, hunsigned, hsigned⟩ := htext
  unfold bareValue
  rw [if_neg hdecimal, Option.not_isSome_iff_eq_none.1 hunsigned,
    Option.not_isSome_iff_eq_none.1 hsigned]

/-- All ASCII blanks. -/
def asciiBlanks : Text :=
  [' ', '\t', '\n', '\r', '\x0c']

theorem mem_asciiBlanks {c : Char} (hc : isAsciiBlank c = true) : c ∈ asciiBlanks := by
  unfold isAsciiBlank at hc
  simpa [asciiBlanks, or_assoc] using hc

theorem isBlank_of_isAsciiBlank {c : Char} (hc : isAsciiBlank c = true) : isBlank c = true := by
  have hall : asciiBlanks.all isBlank = true := by decide
  exact List.all_eq_true.1 hall c (mem_asciiBlanks hc)

theorem isSeparator_eq_false_of_isAsciiBlank {c : Char} (hc : isAsciiBlank c = true) :
    isSeparator c = false := by
  have hall : asciiBlanks.any isSeparator = false := by decide
  exact eq_false_of_any hall c (mem_asciiBlanks hc)

theorem dropWhile_start (p : Text) : (start p).dropWhile isBlank = p.dropWhile isBlank := by
  unfold start
  induction p with
  | nil => rfl
  | cons c p ih =>
    cases hc : isAsciiBlank c with
    | true =>
      rw [List.dropWhile_cons_of_pos hc, ih,
        List.dropWhile_cons_of_pos (isBlank_of_isAsciiBlank hc)]
    | false => rw [List.dropWhile_cons_of_neg (by simp [hc])]

/-- The blanks in front are taken off anyway. -/
theorem trim_start (p : Text) : trim (start p) = trim p := by
  unfold trim
  rw [dropWhile_start]

theorem IsBare.read_eq {p : Text} (hbare : IsBare p) : read p = bareValue (trim p) := by
  have hnone : ∀ c ∈ start p, (!isSeparator c) = true := by
    intro c hc
    rw [hbare.no_separator c ((List.dropWhile_sublist _).subset hc)]
    rfl
  have hhead : ∀ c, isSeparator c = true → (start p).head? ≠ some c := by
    intro c hc heq
    have hmem := hnone c (List.mem_of_head? heq)
    rw [hc] at hmem
    cases hmem
  have hread : byFirst (inner p.length) (start p) = some (bareValue (trim p), []) := by
    rw [byFirst_of_other hbare.no_quote hbare.no_apostrophe (hhead _ rfl) (hhead _ rfl), bare_eq,
      List.takeWhile_eq_self_iff.2 hnone, List.dropWhile_eq_nil_iff.2 hnone, trim_start]
  exact read_eq_of_whole
    ⟨[], orElse_eq_some_iff.2 (.inr ⟨hbare.no_truth, hread⟩), areBlanks_iff.2 rfl⟩

/-- Where only blanks follow a text without separators, there are none at all. -/
theorem no_separator_of_areBlanks {p : Text}
    (hrest : AreBlanks ((start p).dropWhile fun c => !isSeparator c)) :
    ∀ c ∈ p, isSeparator c = false := by
  intro c hc
  rw [← List.takeWhile_append_dropWhile (p := isAsciiBlank) (l := p), List.mem_append] at hc
  rcases hc with hc | hc
  · exact isSeparator_eq_false_of_isAsciiBlank (List.mem_takeWhile_imp hc)
  · change c ∈ start p at hc
    rw [← List.takeWhile_append_dropWhile (p := fun c => !isSeparator c) (l := start p),
      List.mem_append] at hc
    rcases hc with hc | hc
    · simpa using List.mem_takeWhile_imp hc
    · exact isSeparator_eq_false_of_isAsciiBlank (hrest c hc)

/-! ### Lists, tables and quotes -/

theorem text?_of_list {item : Reader Tree} {s rest : Text} {t : Tree}
    (hread : list item s = some (t, rest)) : t.text? = none := by
  obtain ⟨items, mid, -, hlist⟩ := bind_eq_some_iff.1 hread
  obtain ⟨rfl, -⟩ := pure_eq_some_iff.1 hlist
  rfl

theorem text?_of_table {item : Reader Tree} {s rest : Text} {t : Tree}
    (hread : table item s = some (t, rest)) : t.text? = none := by
  obtain ⟨entries, mid, -, htable⟩ := bind_eq_some_iff.1 hread
  obtain ⟨rfl, -⟩ := pure_eq_some_iff.1 htable
  rfl

theorem head?_of_quoted {s rest a : Text} (hread : quoted s = some (a, rest)) :
    s.head? = some '"' := by
  obtain ⟨u, mid, hquote, -⟩ := bind_eq_some_iff.1 hread
  rw [char_eq_some_iff.1 hquote]
  rfl

theorem head?_of_single {s rest a : Text} (hread : single s = some (a, rest)) :
    s.head? = some '\'' := by
  obtain ⟨u, mid, hquote, -⟩ := bind_eq_some_iff.1 hread
  rw [char_eq_some_iff.1 hquote]
  rfl

theorem head?_of_bracketed {opening closing : Char} {gap : Reader Unit} {α : Type}
    {item : Reader α} {s rest : Text} {as : List α}
    (hread : bracketed opening closing gap item s = some (as, rest)) :
    s.head? = some opening := by
  obtain ⟨u, mid, hopening, -⟩ := bind_eq_some_iff.1 hread
  rw [char_eq_some_iff.1 hopening]
  rfl

theorem head?_of_list {item : Reader Tree} {s rest : Text} {t : Tree}
    (hread : list item s = some (t, rest)) : s.head? = some '[' := by
  obtain ⟨items, mid, hitems, -⟩ := bind_eq_some_iff.1 hread
  exact head?_of_bracketed hitems

theorem head?_of_table {item : Reader Tree} {s rest : Text} {t : Tree}
    (hread : table item s = some (t, rest)) : s.head? = some '\x7b' := by
  obtain ⟨entries, mid, hentries, -⟩ := bind_eq_some_iff.1 hread
  exact head?_of_bracketed hentries

/-- What begins no truth value, and is wholly read by its first character, is read so. -/
theorem read_of_byFirst {p rest : Text} {t : Tree} {c : Char} (hhead : (start p).head? = some c)
    (htrue : c ≠ 't') (hfalse : c ≠ 'f')
    (hread : byFirst (inner p.length) (start p) = some (t, rest)) (hrest : AreBlanks rest) :
    read p = t :=
  read_eq_of_whole
    ⟨rest, orElse_eq_some_iff.2 (.inr ⟨truth_eq_none hhead htrue hfalse, hread⟩), hrest⟩

theorem read_of_quoted {p s : Text} (hwhole : Whole quoted p s) : read p = .text s := by
  obtain ⟨rest, hread, hrest⟩ := hwhole
  have hhead := head?_of_quoted hread
  refine read_of_byFirst hhead (by decide) (by decide) ?_ hrest
  rw [byFirst_of_quote hhead]
  exact map_eq_some_iff.2 ⟨s, hread, rfl⟩

theorem read_of_single {p s : Text} (hwhole : Whole single p s) : read p = .text s := by
  obtain ⟨rest, hread, hrest⟩ := hwhole
  have hhead := head?_of_single hread
  refine read_of_byFirst hhead (by decide) (by decide) ?_ hrest
  rw [byFirst_of_apostrophe hhead]
  exact map_eq_some_iff.2 ⟨s, hread, rfl⟩

/-- What a text is read as, if not as itself. -/
theorem text?_read {p : Text} {o : Option Text} (hreads : ReadsAs p o) : (read p).text? = o := by
  cases hreads with
  | @truth t hwhole =>
    obtain ⟨rest, hread, hrest⟩ := hwhole
    rw [read_eq_of_whole ⟨rest, orElse_eq_some_iff.2 (.inl hread), hrest⟩]
    rcases truth_eq_some hread with ⟨-, rfl⟩ | ⟨-, rfl⟩ <;> rfl
  | number hbare hnumber =>
    rw [hbare.read_eq]
    exact text?_bareValue_of_isNumber hnumber
  | list hwhole =>
    obtain ⟨rest, hread, hrest⟩ := hwhole
    have hhead := head?_of_list hread
    rw [read_of_byFirst hhead (by decide) (by decide) ((byFirst_of_bracket hhead).trans hread)
      hrest]
    exact text?_of_list hread
  | table hwhole =>
    obtain ⟨rest, hread, hrest⟩ := hwhole
    have hhead := head?_of_table hread
    rw [read_of_byFirst hhead (by decide) (by decide) ((byFirst_of_brace hhead).trans hread)
      hrest]
    exact text?_of_table hread
  | quoted hwhole =>
    rw [read_of_quoted hwhole]
    rfl
  | single hwhole =>
    rw [read_of_single hwhole]
    rfl
  | trimmed hbare htext hblank =>
    rw [hbare.read_eq, bareValue_of_not_isNumber htext]
    rfl

/-- A text that is not read as anything else stands for itself. -/
theorem read_eq_text {p : Text} (hnone : ∀ o, ¬ ReadsAs p o) : read p = .text p := by
  by_cases hbare : IsBare p
  · have htext : ¬ IsNumber (trim p) := fun hnumber => hnone _ (.number hbare hnumber)
    have htrim : trim p = p := by
      by_contra hblank
      exact hnone _ (.trimmed hbare htext hblank)
    rw [hbare.read_eq, bareValue_of_not_isNumber htext, htrim]
  · apply read_eq_of_not_whole
    rintro t ⟨rest, hread, hrest⟩
    rcases orElse_eq_some_iff.1 hread with htruth | ⟨htruth, hread⟩
    · exact hnone _ (.truth ⟨rest, htruth, hrest⟩)
    by_cases hquote : (start p).head? = some '"'
    · rw [byFirst_of_quote hquote] at hread
      obtain ⟨s, hread, -⟩ := map_eq_some_iff.1 hread
      exact hnone _ (.quoted ⟨rest, hread, hrest⟩)
    by_cases hapostrophe : (start p).head? = some '\''
    · rw [byFirst_of_apostrophe hapostrophe] at hread
      obtain ⟨s, hread, -⟩ := map_eq_some_iff.1 hread
      exact hnone _ (.single ⟨rest, hread, hrest⟩)
    by_cases hbracket : (start p).head? = some '['
    · rw [byFirst_of_bracket hbracket] at hread
      exact hnone _ (.list ⟨rest, hread, hrest⟩)
    by_cases hbrace : (start p).head? = some '\x7b'
    · rw [byFirst_of_brace hbrace] at hread
      exact hnone _ (.table ⟨rest, hread, hrest⟩)
    -- The text without quotes ends at a separator, which is no blank.
    rw [byFirst_of_other hquote hapostrophe hbracket hbrace, bare_eq] at hread
    obtain ⟨-, rfl⟩ := Prod.mk.inj (Option.some.inj hread)
    exact hbare ⟨no_separator_of_areBlanks hrest, hquote, hapostrophe, htruth⟩

/-! ### Nothing is read as what was written, but as itself -/

theorem length_front? {n : Nat} {s front : Text} (hfront : Utf8.front? n s = some front) :
    front.length ≤ s.length := by
  fun_induction Utf8.front? n s generalizing front with
  | case1 =>
    obtain rfl := Option.some.inj hfront
    exact Nat.zero_le _
  | case2 =>
    obtain rfl := Option.some.inj hfront
    exact Nat.zero_le _
  | case3 n c s hn hsize ih =>
    obtain ⟨rest, hrest, rfl⟩ := Option.map_eq_some_iff.1 hfront
    exact Nat.succ_le_succ (ih hrest)
  | case4 => cases hfront

theorem length_escaped {lead s rest a : Text} (hread : escaped lead s = some (a, rest)) :
    a.length ≤ lead.length + s.length := by
  obtain ⟨front, _, hkept, hchars⟩ := bind_eq_some_iff.1 hread
  obtain ⟨hfront, rfl⟩ := lift_eq_some_iff.1 hkept
  obtain ⟨chars, _, hmany, hquote⟩ := bind_eq_some_iff.1 hchars
  obtain ⟨_, _, -, hend⟩ := bind_eq_some_iff.1 hquote
  obtain ⟨rfl, -⟩ := pure_eq_some_iff.1 hend
  have hlead := length_front? hfront
  have htaken := length_many ((shortens_charWhere isPlain).orElse shortens_escape) hmany
  rw [List.length_append]
  omega

/-- The quotes at least are gone. -/
theorem length_quoted {s rest a : Text} (hread : quoted s = some (a, rest)) :
    a.length < s.length := by
  obtain ⟨_, body, hopening, hbody⟩ := bind_eq_some_iff.1 hread
  rw [char_eq_some_iff.1 hopening, List.length_cons]
  obtain ⟨lead, _, hspan, hback⟩ := bind_eq_some_iff.1 hbody
  obtain ⟨rfl, rfl⟩ := span_eq_some_iff.1 hspan
  have hparts := congrArg List.length (List.takeWhile_append_dropWhile (p := isPlain) (l := body))
  rw [List.length_append] at hparts
  rcases orElse_eq_some_iff.1 hback with hplain | ⟨-, hescaped⟩
  · obtain ⟨_, _, -, hend⟩ := bind_eq_some_iff.1 hplain
    obtain ⟨rfl, -⟩ := pure_eq_some_iff.1 hend
    omega
  · have hlength := length_escaped hescaped
    omega

theorem length_single {s rest a : Text} (hread : single s = some (a, rest)) :
    a.length < s.length := by
  obtain ⟨_, body, hopening, hbody⟩ := bind_eq_some_iff.1 hread
  rw [char_eq_some_iff.1 hopening]
  obtain ⟨c, _, hc, hback⟩ := bind_eq_some_iff.1 hbody
  rw [(charWhere_eq_some_iff.1 hc).1]
  obtain ⟨_, _, -, hend⟩ := bind_eq_some_iff.1 hback
  obtain ⟨rfl, -⟩ := pure_eq_some_iff.1 hend
  simp

theorem length_start (p : Text) : (start p).length ≤ p.length :=
  (List.dropWhile_sublist _).length_le

/-- What a reader makes of a whole text is not that text, if it is always shorter. -/
theorem Whole.ne {r : Reader Text} {p s : Text} (hwhole : Whole r p s)
    (hr : ∀ {s rest a : Text}, r s = some (a, rest) → a.length < s.length) : s ≠ p := by
  rintro rfl
  obtain ⟨rest, hread, -⟩ := hwhole
  exact absurd (Nat.lt_of_lt_of_le (hr hread) (length_start s)) (Nat.lt_irrefl _)

/-- Whatever is not read as itself is read as something else. -/
theorem ReadsAs.ne {p : Text} {o : Option Text} (hreads : ReadsAs p o) : o ≠ some p := by
  cases hreads with
  | quoted hwhole => exact fun heq => hwhole.ne length_quoted (Option.some.inj heq)
  | single hwhole => exact fun heq => hwhole.ne length_single (Option.some.inj heq)
  | trimmed _ _ hblank => exact fun heq => hblank (Option.some.inj heq)
  | _ => exact nofun

/-- A text stands for itself if and only if the notation makes nothing else of it. -/
theorem text?_read_eq_some_iff {p : Text} : (read p).text? = some p ↔ ∀ o, ¬ ReadsAs p o := by
  constructor
  · intro hread o hreads
    exact hreads.ne ((text?_read hreads).symm.trans hread)
  · intro hnone
    rw [read_eq_text hnone]
    rfl

end AnidbClient.Settings.Variable
