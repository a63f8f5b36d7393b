import Rubric.Toml.Quoted

/-!
# Strings are read back

* `escapeChar_cases` : a character stands between double quotes as it is, or as an escape that is read as
  the character;
* `readLine_escaped`, `readLine_plain` : the rest of a string on one line;
* `readBlock_quotes`, `readBlock_close` : quotes within a block and at its end; `readBlock_escaped`,
  `readBlock_plain` : the rest of a block;
* `Form.of_cases` : what is known of a text that is written between single quotes;
* `readString_quote` : every text is read back from the string that is written for it, whatever follows, as
  long as it is no quote.
-/

namespace Rubric.Toml

/-! ## Characters -/

theorem hexValue?_hexDigit : ∀ n < 16, hexValue? (hexDigit n) = some n := by decide

theorem toNat_lt_of_isControl {c : Char} (h : isControl c) : c.toNat < 128 := by
  simp only [isControl, Bool.or_eq_true, decide_eq_true_eq, beq_iff_eq] at h
  omega

theorem readEscape_code {c : Char} (h : isControl c) (r : List Char) :
    readEscape ('u' :: '0' :: '0' :: hexDigit (c.toNat / 16) :: hexDigit (c.toNat % 16) :: r) =
      some (c, r) := by
  have hc := toNat_lt_of_isControl h
  have hhigh := hexValue?_hexDigit (c.toNat / 16) (by omega)
  have hlow := hexValue?_hexDigit (c.toNat % 16) (by omega)
  have hzero : hexValue? '0' = some 0 := by decide
  have hnumber : hexNumber? ['0', '0', hexDigit (c.toNat / 16), hexDigit (c.toNat % 16)] = some c.toNat := by
    simp only [hexNumber?, List.foldlM_cons, List.foldlM_nil, hzero, hhigh, hlow, Option.map_some,
      Option.bind_eq_bind, Option.bind_some]
    show some _ = some _
    congr 1
    omega
  have hread : readCode 4 ('0' :: '0' :: hexDigit (c.toNat / 16) :: hexDigit (c.toNat % 16) :: r) =
      some (c, r) := by
    rw [readCode, if_neg (by simp)]
    simp only [List.take_succ_cons, List.take_zero, hnumber]
    rw [if_pos (show c.toNat.isValidChar from c.valid), Char.ofNat_toNat]
    rfl
  exact hread

/-- A character stands between double quotes as it is, or as an escape that is read as the character. -/
theorem escapeChar_cases (c : Char) :
    (escapeChar c = [c] ∧ c ≠ '\x22' ∧ c ≠ '\x5c' ∧ isPlain c) ∨
      ∃ e, escapeChar c = '\x5c' :: e ∧ ∀ r, readEscape (e ++ r) = some (c, r) := by
  unfold escapeChar
  split
  · rename_i h
    exact Or.inr ⟨['b'], rfl, fun r => by rw [h]; rfl⟩
  split
  · rename_i h
    exact Or.inr ⟨['t'], rfl, fun r => by rw [h]; rfl⟩
  split
  · rename_i h
    exact Or.inr ⟨['n'], rfl, fun r => by rw [h]; rfl⟩
  split
  · rename_i h
    exact Or.inr ⟨['f'], rfl, fun r => by rw [h]; rfl⟩
  split
  · rename_i h
    exact Or.inr ⟨['r'], rfl, fun r => by rw [h]; rfl⟩
  split
  · rename_i h
    refine Or.inr ⟨[c], rfl, fun r => ?_⟩
    rcases h with rfl | rfl <;> rfl
  · rename_i hquote
    obtain ⟨hdouble, hslash⟩ := not_or.1 hquote
    split
    · rename_i hcontrol
      exact Or.inr ⟨_, rfl, readEscape_code hcontrol⟩
    · rename_i hcontrol
      refine Or.inl ⟨rfl, hdouble, hslash, ?_⟩
      rw [isPlain, Bool.eq_false_iff.2 hcontrol]
      simp

theorem afterNewline?_cons {c : Char} (hfeed : c ≠ '\n') (hreturn : c ≠ '\r') (t : List Char) :
    afterNewline? (c :: t) = none := by
  unfold afterNewline?
  split
  · rename_i heq
    exact absurd (List.cons.inj heq).1 hfeed
  · rename_i heq
    exact absurd (List.cons.inj heq).1 hreturn
  · rfl

/-- What is an escape does not hide the end of a line. -/
theorem not_newline_of_readEscape {s : List Char} {c : Char} {r : List Char}
    (h : readEscape s = some (c, r)) : afterNewline? (s.dropWhile isSpace) = none := by
  cases s with
  | nil => rfl
  | cons d t =>
    have hspace : isSpace d = false := by
      refine Bool.eq_false_iff.2 fun hd => ?_
      simp only [isSpace, Bool.or_eq_true, beq_iff_eq] at hd
      rcases hd with rfl | rfl <;> cases h
    rw [List.dropWhile_cons_of_neg (by simp [hspace])]
    refine afterNewline?_cons ?_ ?_ t
    · rintro rfl
      cases h
    · rintro rfl
      cases h

/-! ## Strings on one line -/

section Line
variable {q : Quote} {c : Char} {r s rest : List Char}

theorem readLine_close (q : Quote) (r : List Char) : readLine q (q.char :: r) = some ([], r) := by
  rw [readLine, if_pos rfl]

theorem readLine_cons (hc : c ≠ q.char) (hslash : q = .double → c ≠ '\x5c') (hplain : isPlain c)
    (h : readLine q r = some (s, rest)) : readLine q (c :: r) = some (c :: s, rest) := by
  rw [readLine, if_neg hc, if_neg fun hd => hslash hd.1 hd.2, if_pos hplain, h]
  rfl

theorem readLine_escape {e : List Char} (he : readEscape (e ++ r) = some (c, r))
    (h : readLine .double r = some (s, rest)) :
    readLine .double ('\x5c' :: (e ++ r)) = some (c :: s, rest) := by
  rw [readLine, if_neg (by decide), if_pos ⟨rfl, rfl⟩, he]
  dsimp only
  rw [dif_pos (by simp), h]
  rfl

/-- The rest of a string with escapes. -/
theorem readLine_escaped (s r : List Char) :
    readLine .double (s.flatMap escapeChar ++ '\x22' :: r) = some (s, r) := by
  induction s with
  | nil => exact readLine_close .double r
  | cons c s ih =>
    rw [List.flatMap_cons, List.append_assoc]
    rcases escapeChar_cases c with ⟨hc, hquote, hslash, hplain⟩ | ⟨e, hc, he⟩
    · rw [hc]
      exact readLine_cons hquote (fun _ => hslash) hplain ih
    · rw [hc]
      exact readLine_escape (he _) ih

/-- The rest of a string without escapes. -/
theorem readLine_plain (r : List Char) (hs : ∀ c ∈ s, c ≠ '\x27' ∧ isPlain c) :
    readLine .single (s ++ '\x27' :: r) = some (s, r) := by
  induction s with
  | nil => exact readLine_close .single r
  | cons c s ih =>
    obtain ⟨⟨hquote, hplain⟩, hrest⟩ := List.forall_mem_cons.1 hs
    exact readLine_cons hquote (fun h => by cases h) hplain (ih hrest)

end Line

/-! ## Blocks -/

section Block
variable {q : Quote} {c : Char} {k : Nat} {r s rest : List Char}

def NotQuoted (q : Quote) (r : List Char) : Prop := r.head? ≠ some q.char

theorem notQuoted_cons (h : c ≠ q.char) : NotQuoted q (c :: r) := fun heq => h (Option.some.inj heq)

theorem takeWhile_quotes (k : Nat) (hr : NotQuoted q r) :
    (List.replicate k q.char ++ r).takeWhile (· == q.char) = List.replicate k q.char := by
  induction k with
  | zero =>
    cases r with
    | nil => rfl
    | cons d r =>
      have hd : (d == q.char) = false := beq_false_of_ne fun h => hr (congrArg some h)
      rw [List.replicate_zero, List.nil_append, List.takeWhile_cons_of_neg (by simp [hd])]
  | succ k ih =>
    rw [List.replicate_succ, List.cons_append, List.takeWhile_cons_of_pos (by simp), ih]

/-- Up to two quotes within a block are plain characters. -/
theorem readBlock_quotes (hk : k ≤ 2) (hr : NotQuoted q r) (h : readBlock q r = some (s, rest)) :
    readBlock q (List.replicate k q.char ++ r) = some (List.replicate k q.char ++ s, rest) := by
  cases k with
  | zero => exact h
  | succ k =>
    have hmore := takeWhile_quotes k hr
    have hdrop : (List.replicate k q.char ++ r).drop k = r := List.drop_left' List.length_replicate
    rw [List.replicate_succ, List.cons_append, readBlock, if_pos rfl]
    simp only [hmore, List.length_replicate]
    rw [if_pos (by omega), hdrop, h]
    simp [List.replicate_succ]

/-- Three quotes close a block, and up to two more may stand in front of them. -/
theorem readBlock_close (hk : k ≤ 2) (hr : NotQuoted q r) :
    readBlock q (List.replicate k q.char ++ (List.replicate 3 q.char ++ r)) =
      some (List.replicate k q.char, r) := by
  have hmore := takeWhile_quotes (k + 2) hr
  have hdrop : (List.replicate (k + 2) q.char ++ r).drop (k + 2) = r :=
    List.drop_left' List.length_replicate
  have hjoin : List.replicate k q.char ++ (List.replicate 3 q.char ++ r) =
      q.char :: (List.replicate (k + 2) q.char ++ r) := by
    rw [← List.append_assoc, List.replicate_append_replicate, ← List.cons_append,
      ← List.replicate_succ]
  rw [hjoin, readBlock, if_pos rfl]
  simp only [hmore, List.length_replicate]
  rw [if_neg (by omega), if_pos (by omega), hdrop, Nat.add_sub_cancel]

theorem readBlock_cons (hc : c ≠ q.char) (hslash : q = .double → c ≠ '\x5c') (hplain : isPlain c)
    (h : readBlock q r = some (s, rest)) : readBlock q (c :: r) = some (c :: s, rest) := by
  rw [readBlock, if_neg hc, if_neg fun hd => hslash hd.1 hd.2, if_pos hplain, h]
  rfl

theorem readBlock_newline (h : readBlock q r = some (s, rest)) :
    readBlock q ('\n' :: r) = some ('\n' :: s, rest) := by
  have hc : '\n' ≠ q.char := by cases q <;> decide
  rw [readBlock, if_neg hc, if_neg fun hd => absurd hd.2 (by decide), if_neg (by decide)]
  have hend : afterNewline? ('\n' :: r) = some r := rfl
  rw [hend]
  dsimp only
  rw [dif_pos (Nat.le_refl _), h]
  rfl

theorem readBlock_escape {e : List Char} (he : readEscape (e ++ r) = some (c, r))
    (h : readBlock .double r = some (s, rest)) :
    readBlock .double ('\x5c' :: (e ++ r)) = some (c :: s, rest) := by
  rw [readBlock, if_neg (by decide), if_pos ⟨rfl, rfl⟩, not_newline_of_readEscape he]
  dsimp only
  rw [he]
  dsimp only
  rw [dif_pos (by simp), h]
  rfl

/-- The rest of a block with escapes, behind up to two quotes. -/
theorem readBlock_escaped (s : List Char) (hk : k ≤ 2) (hr : NotQuoted .double r) :
    readBlock .double
        (List.replicate k '\x22' ++ (escapeBlock k s ++ (List.replicate 3 '\x22' ++ r))) =
      some (List.replicate k '\x22' ++ s, r) := by
  -- the quotes in front are those that `escapeBlock` has counted
  induction s generalizing k with
  | nil =>
    rw [escapeBlock, List.nil_append, List.append_nil]
    exact readBlock_close (q := .double) hk hr
  | cons c s ih =>
    rw [escapeBlock]
    by_cases hquote : c = '\x22'
    · rw [if_pos hquote, hquote]
      by_cases htwo : k = 2
      · rw [if_pos htwo]
        refine readBlock_quotes (q := .double) hk (notQuoted_cons (by decide)) ?_
        exact readBlock_escape (e := ['\x22']) rfl (ih (k := 0) (by omega))
      · rw [if_neg htwo]
        have hnext := ih (k := k + 1) (by omega)
        rw [List.replicate_succ', List.append_assoc, List.append_assoc] at hnext
        exact hnext
    · rw [if_neg hquote]
      have hrest := ih (k := 0) (by omega)
      rw [List.replicate_zero, List.nil_append, List.nil_append] at hrest
      by_cases hline : c = '\n'
      · rw [if_pos hline, hline]
        exact readBlock_quotes (q := .double) hk (notQuoted_cons (by decide)) (readBlock_newline hrest)
      · rw [if_neg hline, List.append_assoc]
        rcases escapeChar_cases c with ⟨hc, -, hslash, hplain⟩ | ⟨e, hc, he⟩
        · rw [hc]
          exact readBlock_quotes (q := .double) hk (notQuoted_cons hquote)
            (readBlock_cons hquote (fun _ => hslash) hplain hrest)
        · rw [hc]
          exact readBlock_quotes (q := .double) hk (notQuoted_cons (by decide)) (readBlock_escape (he _) hrest)

/-- The rest of a block without escapes, behind up to two quotes. -/
theorem readBlock_plain (hs : ∀ c ∈ s, isPlain c ∨ c = '\n') (hrun : longestRun '\x27' k s ≤ 2)
    (hr : NotQuoted .single r) :
    readBlock .single (List.replicate k '\x27' ++ (s ++ (List.replicate 3 '\x27' ++ r))) =
      some (List.replicate k '\x27' ++ s, r) := by
  induction s generalizing k with
  | nil =>
    rw [List.nil_append, List.append_nil]
    exact readBlock_close (q := .single) hrun hr
  | cons c s ih =>
    obtain ⟨hc, hrest⟩ := List.forall_mem_cons.1 hs
    rw [longestRun] at hrun
    by_cases hquote : c = '\x27'
    · rw [if_pos hquote] at hrun
      have hnext := ih hrest hrun
      rw [List.replicate_succ', List.append_assoc, List.append_assoc] at hnext
      rw [hquote]
      exact hnext
    · rw [if_neg hquote] at hrun
      obtain ⟨hk, hrun⟩ := Nat.max_le.1 hrun
      have hbehind := ih hrest hrun
      rw [List.replicate_zero, List.nil_append, List.nil_append] at hbehind
      refine readBlock_quotes (q := .single) hk (notQuoted_cons hquote) ?_
      rcases hc with hplain | rfl
      · exact readBlock_cons hquote (fun h => by cases h) hplain hbehind
      · exact readBlock_newline hbehind

end Block

/-! ## Strings of any kind -/

namespace Form

/-- A text is written with escapes between double quotes, or it needs none between single quotes. -/
theorem of_cases (s : List Char) :
    (of s).quote = .double ∨
      of s = ⟨.single, false⟩ ∧ (∀ c ∈ s, c ≠ '\x27' ∧ isPlain c) ∨
      of s = ⟨.single, true⟩ ∧ (∀ c ∈ s, isPlain c ∨ c = '\n') ∧ longestRun '\x27' 0 s ≤ 2 := by
  have hplain (h : (!s.any fun c => isControl c && c != '\t' && c != '\n') = true) :
      ∀ c ∈ s, isPlain c ∨ c = '\n' := by
    intro c hc
    rw [Bool.not_eq_true'] at h
    have hcontrol := List.any_eq_false.1 h c hc
    simp only [Bool.and_eq_true, bne_iff_ne, not_and, ne_eq, Decidable.not_not] at hcontrol
    by_cases hctl : isControl c = true
    · by_cases htab : c = '\t'
      · exact Or.inl (by rw [htab]; rfl)
      · exact Or.inr (hcontrol ⟨hctl, htab⟩)
    · exact Or.inl (by simp [isPlain, hctl])
  simp only [of]
  split
  · exact Or.inl rfl
  split
  · rename_i h
    simp only [Bool.and_eq_true, Bool.not_eq_true', List.contains_eq_mem, decide_eq_false_iff_not] at h
    obtain ⟨⟨hescapes, hquote⟩, hlines⟩ := h
    refine Or.inr (Or.inl ⟨rfl, fun c hc => ⟨fun h => hquote (h ▸ hc), ?_⟩⟩)
    rcases hplain (by rw [hescapes]; rfl) c hc with hp | rfl
    · exact hp
    · exact absurd hc hlines
  split
  · exact Or.inl rfl
  split
  · rename_i h
    simp only [Bool.and_eq_true, decide_eq_true_eq] at h
    exact Or.inr (Or.inr ⟨rfl, hplain h.1, h.2⟩)
  · exact Or.inl rfl

end Form

section Read
variable {q : Quote} {t r s rest : List Char}

theorem quoteOf?_char (q : Quote) : quoteOf? q.char = some q := by cases q <;> rfl

/-- A string on one line does not begin with three quotes. -/
theorem readString_line (ht : NotQuoted q t) (hr : NotQuoted q r)
    (h : readLine q (t ++ q.char :: r) = some (s, rest)) :
    readString (q.char :: (t ++ q.char :: r)) = some (s, rest) := by
  have hopen : (t ++ q.char :: r).take 2 ≠ [q.char, q.char] := by
    intro heq
    cases t with
    | nil =>
      cases r with
      | nil => cases heq
      | cons d r =>
        simp only [List.nil_append, List.take_succ_cons, List.take_zero, List.cons.injEq, true_and,
          and_true] at heq
        exact hr (congrArg some heq)
    | cons d t =>
      simp only [List.cons_append, List.take_succ_cons, List.cons.injEq] at heq
      exact ht (congrArg some heq.1)
  rw [readString, quoteOf?_char]
  dsimp only
  rw [if_neg hopen]
  exact h

/-- A block begins behind the line end that follows its quotes. -/
theorem readString_lines (h : readBlock q t = some (s, rest)) :
    readString (List.replicate 3 q.char ++ '\n' :: t) = some (s, rest) := by
  show readString (q.char :: q.char :: q.char :: '\n' :: t) = _
  rw [readString, quoteOf?_char]
  exact (if_pos rfl).trans h

theorem readString_block (ht : afterNewline? t = none) (h : readBlock q t = some (s, rest)) :
    readString (List.replicate 3 q.char ++ t) = some (s, rest) := by
  show readString (q.char :: q.char :: q.char :: t) = _
  rw [readString, quoteOf?_char]
  refine (if_pos rfl).trans ?_
  show readBlock q ((afterNewline? t).getD t) = _
  rw [ht]
  exact h

theorem afterNewline?_of_plain {c : Char} (h : isPlain c) : afterNewline? (c :: t) = none := by
  refine afterNewline?_cons ?_ ?_ t
  · rintro rfl
    exact absurd h (by decide)
  · rintro rfl
    exact absurd h (by decide)

end Read

section Write
variable {r : List Char}

theorem not_quoted_escaped (s : List Char) : NotQuoted .double (s.flatMap escapeChar) := by
  cases s with
  | nil => exact fun h => by cases h
  | cons c s =>
    rw [NotQuoted, List.flatMap_cons]
    rcases escapeChar_cases c with ⟨hc, hquote, -⟩ | ⟨e, hc, -⟩
    · rw [hc]
      exact fun h => hquote (Option.some.inj h)
    · rw [hc]
      exact fun h => absurd (Option.some.inj h) (by decide)

theorem afterNewline?_escapeBlock {s : List Char} (hs : '\n' ∉ s) :
    afterNewline? (escapeBlock 0 s ++ (List.replicate 3 '\x22' ++ r)) = none := by
  cases s with
  | nil => exact afterNewline?_of_plain (by decide)
  | cons c s =>
    have hline : c ≠ '\n' := fun h => hs (h ▸ List.mem_cons_self)
    rw [escapeBlock]
    by_cases hquote : c = '\x22'
    · rw [if_pos hquote]
      exact afterNewline?_of_plain (by rw [hquote]; decide)
    · rw [if_neg hquote, if_neg hline, List.append_assoc]
      rcases escapeChar_cases c with ⟨hc, -, -, hplain⟩ | ⟨e, hc, -⟩
      · rw [hc]
        exact afterNewline?_of_plain hplain
      · rw [hc]
        exact afterNewline?_of_plain (by decide)

theorem readString_double (block : Bool) (s : List Char) (hr : NotQuoted .double r) :
    readString ((⟨.double, block⟩ : Form).write s ++ r) = some (s, r) := by
  cases block with
  | false =>
    have h := readString_line (not_quoted_escaped s) hr (readLine_escaped s r)
    simpa [Form.write, Quote.char] using h
  | true =>
    have hread := readBlock_escaped s (Nat.zero_le 2) hr
    rw [List.replicate_zero, List.nil_append, List.nil_append] at hread
    by_cases hlines : '\n' ∈ s
    · have h := readString_lines hread
      simpa [Form.write, Quote.char, hlines] using h
    · have h := readString_block (q := .double) (afterNewline?_escapeBlock hlines) hread
      simpa [Form.write, Quote.char, hlines] using h

theorem readString_single {s : List Char} (hs : ∀ c ∈ s, c ≠ '\x27' ∧ isPlain c)
    (hr : NotQuoted .single r) :
    readString ((⟨.single, false⟩ : Form).write s ++ r) = some (s, r) := by
  have hstart : NotQuoted .single s := by
    intro h
    exact (hs _ (List.mem_of_head? h)).1 rfl
  have h := readString_line hstart hr (readLine_plain r hs)
  simpa [Form.write, Quote.char] using h

theorem readString_single_block {s : List Char} (hs : ∀ c ∈ s, isPlain c ∨ c = '\n')
    (hrun : longestRun '\x27' 0 s ≤ 2) (hr : NotQuoted .single r) :
    readString ((⟨.single, true⟩ : Form).write s ++ r) = some (s, r) := by
  have hread := readBlock_plain hs hrun hr
  rw [List.replicate_zero, List.nil_append, List.nil_append] at hread
  by_cases hlines : '\n' ∈ s
  · have h := readString_lines hread
    simpa [Form.write, Quote.char, hlines] using h
  · have hstart : afterNewline? (s ++ (List.replicate 3 '\x27' ++ r)) = none := by
      cases s with
      | nil => exact afterNewline?_of_plain (by decide)
      | cons c s =>
        rcases hs c List.mem_cons_self with hplain | rfl
        · exact afterNewline?_of_plain hplain
        · exact absurd List.mem_cons_self hlines
    have h := readString_block (q := .single) hstart hread
    simpa [Form.write, Quote.char, hlines] using h

/-- Every text is read back from the string that is written for it. -/
theorem readString_quote (s : String) (hr : ∀ q, NotQuoted q r) :
    readString ((quote s).toList ++ r) = some (s.toList, r) := by
  rw [quote, String.toList_ofList]
  rcases Form.of_cases s.toList with hq | ⟨hform, hs⟩ | ⟨hform, hs, hrun⟩
  · have hform : Form.of s.toList = ⟨.double, (Form.of s.toList).block⟩ := by rw [← hq]
    rw [hform]
    exact readString_double _ s.toList (hr _)
  · rw [hform]
    exact readString_single hs (hr _)
  · rw [hform]
    exact readString_single_block hs hrun (hr _)

end Write

end Rubric.Toml
