import Rubric.Proofs.Counter.Numerals
import Rubric.Proofs.Template.Grammar
import Rubric.Template.Parser

/-!
# The parts of templates

The readers of literal text, names and markers stop where the grammar says that these end.

* `readLiteral_of_literal`, `literal_of_readLiteral` : literal text is read as far as it goes, and nothing
  else is read as literal text;
* `readName_of_name`, `name_of_readName` : the same for names;
* `mem_markersAt_iff` : the markers at a place;
* `Registry.eq_of_isDigit`, `Registry.find?_behind_marker` : the name of a style cannot be taken for a marker
  and another name.
-/

namespace Rubric.Template

/-! ## Literal text -/

/-- Literal text does not go on here. -/
def Ends (s : List Char) : Prop := ∀ c ∈ s.head?, c.isAlphanum ∨ c = ','

/-- A level does not go on here. -/
def Stops (s : List Char) : Prop := ∀ c ∈ s.head?, c = ','

theorem Stops.ends {s : List Char} (h : Stops s) : Ends s := fun c hc => Or.inr (h c hc)

theorem isQuote_iff {c : Char} : isQuote c ↔ c = '\x22' ∨ c = '\x27' := by simp [isQuote]

theorem isLiteral_iff {c : Char} :
    isLiteral c ↔ ¬c.isAlphanum ∧ c ≠ ',' ∧ c ≠ '\x22' ∧ c ≠ '\x27' := by
  simp [isLiteral, isQuote, and_assoc]

theorem Ends.head?_ne {s : List Char} (h : Ends s) {quote : Char} (hquote : quote = '\x22' ∨ quote = '\x27') :
    s.head? ≠ some quote := by
  intro hhead
  rcases hquote with rfl | rfl <;> exact absurd (h _ hhead) (by decide)

theorem readQuoted_of_quoted {opened : Cursor} {quote : Char} {s t rest : List Char} (h : Quoted quote s t)
    (hend : rest.head? ≠ some quote) (pos : Nat) :
    readQuoted opened quote pos (s ++ quote :: rest) =
      (readLiteral (pos + s.length + 1) rest).map fun (u, d) => (t ++ u, d) := by
  have hmap : ∀ {c : Char} {t : List Char} (x : Except TemplateFault (List Char × Cursor)),
      (x.map fun (u, d) => (t ++ u, d)).map (fun (u, d) => (c :: u, d)) =
        x.map fun (u, d) => (c :: t ++ u, d) := by
    intro c t x
    cases x <;> rfl
  induction h generalizing pos with
  | nil =>
    cases rest with
    | nil => simp [readQuoted, readLiteral, Except.map]
    | cons c r =>
      have hc : c ≠ quote := fun heq => hend (by rw [heq]; rfl)
      simp only [List.nil_append, readQuoted, if_true, if_neg hc, List.length_nil]
      cases readLiteral (pos + 1) (c :: r) <;> rfl
  | @char c s t hc h ih =>
    obtain ⟨d, r, hr⟩ : ∃ d r, s ++ quote :: rest = d :: r := by
      cases s with
      | nil => exact ⟨_, _, rfl⟩
      | cons d s => exact ⟨_, _, rfl⟩
    rw [List.cons_append, hr, readQuoted, if_neg hc, ← hr, ih, hmap, List.length_cons,
      Nat.add_right_comm pos 1]
    rfl
  | @twice s t h ih =>
    rw [List.cons_append, List.cons_append, readQuoted, if_pos rfl, if_pos rfl, ih, hmap, List.length_cons,
      List.length_cons, show pos + 2 + s.length = pos + (s.length + 1 + 1) by omega]

/-- Literal text is read as far as it goes. -/
theorem readLiteral_of_literal {s t r : List Char} (h : Literal s t) (hr : Ends r) (pos : Nat) :
    readLiteral pos (s ++ r) = .ok (t, ⟨pos + s.length, r⟩) := by
  induction h generalizing pos with
  | nil =>
    cases r with
    | nil => rfl
    | cons c r =>
      have hquote : ¬isQuote c := fun h => hr.head?_ne (isQuote_iff.1 h) rfl
      have hliteral : ¬isLiteral c := fun h => by
        obtain ⟨halnum, hcomma, -⟩ := isLiteral_iff.1 h
        exact (hr c rfl).elim halnum hcomma
      rw [List.nil_append, readLiteral, if_neg hquote, if_neg hliteral]
      rfl
  | @char c s t halnum hcomma hquote h ih =>
    have hliteral : isLiteral c := isLiteral_iff.2 ⟨halnum, hcomma, hquote⟩
    have hnot : ¬isQuote c := fun h => (isQuote_iff.1 h).elim hquote.1 hquote.2
    rw [List.cons_append, readLiteral, if_neg hnot, if_pos hliteral, ih, List.length_cons,
      show pos + 1 + s.length = pos + (s.length + 1) by omega]
    rfl
  | @quoted quote s t s' t' hquote h hend h' ih =>
    have hbehind : (s' ++ r).head? ≠ some quote := by
      cases s' with
      | nil => exact hr.head?_ne hquote
      | cons c s' => exact hend
    rw [List.cons_append, List.append_assoc, List.cons_append, readLiteral, if_pos (isQuote_iff.2 hquote),
      readQuoted_of_quoted h hbehind, ih]
    simp only [Except.map, List.length_cons, List.length_append]
    rw [show pos + 1 + s.length + 1 + s'.length = pos + (s.length + (s'.length + 1) + 1) by omega]

mutual
/-- What has been read as literal text is literal text, and it does not go on. -/
theorem literal_of_readLiteral {pos : Nat} {s t : List Char} {d : Cursor}
    (h : readLiteral pos s = .ok (t, d)) : ∃ u, s = u ++ d.rest ∧ Literal u t ∧ Ends d.rest := by
  match s with
  | [] =>
    cases h
    exact ⟨[], rfl, .nil, by simp [Ends]⟩
  | c :: r =>
    rw [readLiteral] at h
    split at h
    · rename_i hquote
      have hquote := isQuote_iff.1 hquote
      obtain ⟨u, v, s', t', rfl, rfl, hquoted, hend, hliteral, hd⟩ := quoted_of_readQuoted h
      exact ⟨c :: (u ++ c :: s'), by simp, .quoted hquote hquoted hend hliteral, hd⟩
    · rename_i hquote
      split at h
      · rename_i hchar
        obtain ⟨halnum, hcomma, hnot⟩ := isLiteral_iff.1 hchar
        obtain ⟨⟨t', d'⟩, hr, heq⟩ := exists_of_map_eq_ok h
        cases heq
        obtain ⟨u, rfl, hu, hd⟩ := literal_of_readLiteral hr
        exact ⟨c :: u, rfl, .char halnum hcomma hnot hu, hd⟩
      · rename_i hchar
        cases h
        refine ⟨[], rfl, .nil, fun e he => ?_⟩
        cases he
        by_contra hnot
        rw [not_or] at hnot
        exact hchar (isLiteral_iff.2 ⟨hnot.1, hnot.2, by simpa [isQuote] using hquote⟩)
termination_by s.length
/-- What has been read behind an opening quote is a quotation and literal text. -/
theorem quoted_of_readQuoted {opened : Cursor} {quote : Char} {pos : Nat} {s t : List Char} {d : Cursor}
    (h : readQuoted opened quote pos s = .ok (t, d)) :
    ∃ u v s' t', s = u ++ quote :: (s' ++ d.rest) ∧ t = v ++ t' ∧ Quoted quote u v ∧
      s'.head? ≠ some quote ∧ Literal s' t' ∧ Ends d.rest := by
  match s with
  | [] => cases h
  | [c] =>
    rw [readQuoted] at h
    split at h
    · rename_i hc
      cases h
      exact ⟨[], [], [], [], by rw [hc]; rfl, rfl, .nil, by simp, .nil, by simp [Ends]⟩
    · cases h
  | c :: c' :: r =>
    rw [readQuoted] at h
    split at h
    · rename_i hc
      subst hc
      split at h
      · rename_i hc'
        subst hc'
        obtain ⟨⟨t', d'⟩, hr, heq⟩ := exists_of_map_eq_ok h
        cases heq
        obtain ⟨u, v, s', t', rfl, rfl, hquoted, hrest⟩ := quoted_of_readQuoted hr
        exact ⟨_ :: _ :: u, _ :: v, s', t', rfl, rfl, .twice hquoted, hrest⟩
      · rename_i hc'
        obtain ⟨u, hu, hliteral, hd⟩ := literal_of_readLiteral h
        refine ⟨[], [], u, t, by rw [hu]; rfl, rfl, .nil, ?_, hliteral, hd⟩
        cases u with
        | nil => simp
        | cons e u =>
          cases hu
          simpa using hc'
    · rename_i hc
      obtain ⟨⟨t', d'⟩, hr, heq⟩ := exists_of_map_eq_ok h
      cases heq
      obtain ⟨u, v, s', t', hu, rfl, hquoted, hrest⟩ := quoted_of_readQuoted hr
      exact ⟨c :: u, c :: v, s', t', by rw [hu]; rfl, rfl, .char hc hquoted, hrest⟩
termination_by s.length
end

/-! ## Names -/

/-- A name does not go on here. -/
def Breaks (s : List Char) : Prop :=
  ∀ c ∈ s.head?, ¬c.isAlphanum ∧ (c = '-' → ¬s.tail.head?.any Char.isAlphanum)

theorem Name.exists_cons {s : List Char} (h : Name s) : ∃ c r, s = c :: r ∧ c.isAlphanum := by
  cases h with
  | word hne h =>
    obtain ⟨c, r, rfl⟩ := List.exists_cons_of_ne_nil hne
    exact ⟨c, r, rfl, h c (List.mem_cons_self ..)⟩
  | @join s s' hne h h' =>
    obtain ⟨c, r, rfl⟩ := List.exists_cons_of_ne_nil hne
    exact ⟨c, r ++ '-' :: s', rfl, h c (List.mem_cons_self ..)⟩

theorem readNameTail_of_alphanum {s : List Char} (h : ∀ c ∈ s, c.isAlphanum) (r : List Char) :
    readNameTail (s ++ r) = (s ++ (readNameTail r).1, (readNameTail r).2) := by
  induction s with
  | nil => rfl
  | cons c s ih =>
    obtain ⟨hc, hs⟩ := List.forall_mem_cons.1 h
    rw [List.cons_append, readNameTail, if_pos (by simp [hc]), ih hs]
    rfl

theorem readNameTail_of_breaks {r : List Char} (h : Breaks r) : readNameTail r = ([], r) := by
  cases r with
  | nil => rfl
  | cons c r =>
    obtain ⟨halnum, hhyphen⟩ := h c rfl
    refine if_neg fun hc => ?_
    rw [Bool.or_eq_true, Bool.and_eq_true, beq_iff_eq] at hc
    rcases hc with hc | ⟨hc, hnext⟩
    · exact halnum hc
    · exact hhyphen hc hnext

/-- A name is read as far as it goes. -/
theorem readName_of_name {s r : List Char} (h : Name s) (hr : Breaks r) : readName (s ++ r) = (s, r) := by
  have htail : readNameTail (s ++ r) = (s, r) := by
    induction h with
    | word hne h => rw [readNameTail_of_alphanum h, readNameTail_of_breaks hr, List.append_nil]
    | @join s s' hne h h' ih =>
      obtain ⟨c, s₁, hs, hc⟩ := h'.exists_cons
      have hnext : (s' ++ r).head?.any Char.isAlphanum := by simp [hs, hc]
      have hhyphen : readNameTail ('-' :: (s' ++ r)) = ('-' :: s', r) := by
        rw [readNameTail, if_pos (by rw [hnext]; rfl), ih]
      rw [List.append_assoc, readNameTail_of_alphanum h, List.cons_append, hhyphen]
  obtain ⟨c, s₁, rfl, hc⟩ := h.exists_cons
  rw [readName, if_pos (by simp [hc]), htail]

theorem readNameTail_cases (s : List Char) : ∃ word more, (readNameTail s).1 = word ++ more ∧
    (∀ c ∈ word, c.isAlphanum) ∧ (more = [] ∨ ∃ name, Name name ∧ more = '-' :: name) ∧
    (∀ c ∈ s.head?, c.isAlphanum → word ≠ []) := by
  induction s with
  | nil => exact ⟨[], [], rfl, by simp, Or.inl rfl, by simp⟩
  | cons c r ih =>
    obtain ⟨word, more, hread, hword, hmore, hhead⟩ := ih
    rw [readNameTail]
    split
    · rename_i hc
      dsimp only
      rw [hread]
      by_cases halnum : c.isAlphanum
      · exact ⟨c :: word, more, rfl, List.forall_mem_cons.2 ⟨halnum, hword⟩, hmore, by simp⟩
      · rw [Bool.or_eq_true, Bool.and_eq_true, beq_iff_eq] at hc
        obtain ⟨rfl, hnext⟩ := hc.resolve_left halnum
        obtain ⟨c', hc', halnum'⟩ := (Option.any_eq_true _ _).1 hnext
        have hne := hhead c' hc' halnum'
        refine ⟨[], '-' :: (word ++ more), rfl, by simp, Or.inr ⟨_, ?_, rfl⟩, ?_⟩
        · rcases hmore with rfl | ⟨name, hname, rfl⟩
          · exact .word (by simpa using hne) (by simpa using hword)
          · exact .join hne hword hname
        · rintro c ⟨⟩ hc
          exact absurd hc halnum
    · rename_i hc
      refine ⟨[], [], rfl, by simp, Or.inl rfl, ?_⟩
      rintro e ⟨⟩ halnum
      exact absurd (by simp [halnum]) hc

theorem breaks_readNameTail (s : List Char) : Breaks (readNameTail s).2 := by
  induction s with
  | nil => simp [readNameTail, Breaks]
  | cons c r ih =>
    rw [readNameTail]
    split
    · exact ih
    · rename_i hc
      rintro e ⟨⟩
      rw [Bool.or_eq_true, Bool.and_eq_true, beq_iff_eq, not_or, not_and] at hc
      exact hc

/-- What has been read as a name is nothing, where no name begins, or a name that does not go on. -/
theorem name_of_readName (s : List Char) :
    (readName s).1 = [] ∨ Name (readName s).1 ∧ Breaks (readName s).2 := by
  rw [readName]
  split
  · rename_i hhead
    obtain ⟨c, hc, halnum⟩ := (Option.any_eq_true _ _).1 hhead
    obtain ⟨word, more, hread, hword, hmore, hne⟩ := readNameTail_cases s
    refine Or.inr ⟨?_, breaks_readNameTail s⟩
    rw [hread]
    rcases hmore with rfl | ⟨name, hname, rfl⟩
    · exact .word (by simpa using hne c hc halnum) (by simpa using hword)
    · exact .join (hne c hc halnum) hword hname
  · exact Or.inl rfl

/-! ## Markers -/

theorem toLower_cases (c : Char) :
    c.toLower = c ∧ ¬(65 ≤ c.toNat ∧ c.toNat ≤ 90) ∨
      (65 ≤ c.toNat ∧ c.toNat ≤ 90) ∧ c.toLower.toNat = c.toNat + 32 := by
  delta Char.toLower
  split
  · rename_i h
    have hle : c.toNat ≤ 90 := h.2
    refine Or.inr ⟨h, ?_⟩
    show (c.val + ('a'.val - 'A'.val)).toNat = c.toNat + 32
    rw [UInt32.toNat_add]
    show (c.toNat + 32) % 2 ^ 32 = c.toNat + 32
    exact Nat.mod_eq_of_lt (by omega)
  · rename_i h
    exact Or.inl ⟨rfl, h⟩

theorem toLower_eq_iff {c small capital : Char} (hcase : small.toNat = capital.toNat + 32)
    (hcapital : 65 ≤ capital.toNat ∧ capital.toNat ≤ 90) :
    c.toLower = small ↔ c = small ∨ c = capital := by
  constructor
  · rintro rfl
    rcases toLower_cases c with ⟨hsame, -⟩ | ⟨-, hshift⟩
    · exact Or.inl hsame.symm
    · exact Or.inr (Char.toNat_inj.1 (by omega))
  · rintro (rfl | rfl)
    · rcases toLower_cases c with ⟨hsame, -⟩ | ⟨hrange, -⟩
      · exact hsame
      · omega
    · rcases toLower_cases c with ⟨-, hrange⟩ | ⟨-, hshift⟩
      · exact absurd hcapital hrange
      · exact Char.toNat_inj.1 (by omega)

theorem ofDigit?_eq_some_iff {c : Char} {l : HeadingLevel} :
    HeadingLevel.ofDigit? c.toLower = some l ↔ c = Nat.digitChar l.number := by
  have hdigit : (Nat.digitChar l.number).toNat = l.number + 48 := by
    have := l.le_six
    rw [Nat.toNat_digitChar_of_lt_ten (by omega)]
    omega
  have hbounds : ∀ {e : Char}, e.isDigit ↔ 48 ≤ e.toNat ∧ e.toNat ≤ 57 := by
    intro e
    rw [Char.isDigit, Bool.and_eq_true, decide_eq_true_eq, decide_eq_true_eq]
    rfl
  rw [HeadingLevel.ofDigit?]
  constructor
  · intro h
    split at h
    · rename_i hc
      rw [hbounds] at hc
      have hnumber := HeadingLevel.number_of_ofNat? h
      have hzero : '0'.toNat = 48 := rfl
      rcases toLower_cases c with ⟨hsame, -⟩ | ⟨hrange, hshift⟩
      · rw [hsame] at hc hnumber
        exact Char.toNat_inj.1 (by omega)
      · omega
    · cases h
  · rintro rfl
    have := l.le_six
    have := l.one_le
    have hlower : (Nat.digitChar l.number).toLower = Nat.digitChar l.number := by
      rcases toLower_cases (Nat.digitChar l.number) with ⟨hsame, -⟩ | ⟨hrange, -⟩
      · exact hsame
      · omega
    rw [hlower, if_pos (hbounds.2 (by omega)), hdigit,
      show l.number + 48 - '0'.toNat = l.number from Nat.add_sub_cancel .., HeadingLevel.ofNat?_number]

theorem digitChar_number (l : HeadingLevel) :
    (Nat.digitChar l.number).isDigit ∧ ¬(Nat.digitChar l.number).isAlpha := by
  have hdigits : ∀ n < 7, (Nat.digitChar n).isDigit ∧ ¬(Nat.digitChar n).isAlpha := by decide
  exact hdigits l.number (Nat.lt_succ_of_le l.le_six)

theorem parse?_eq_some_iff {s : List Char} {selector : Selector} :
    Selector.parse? (String.ofList s) = some selector ↔ Marker s selector := by
  have hx : ∀ c : Char, c.toLower = 'x' ↔ c = 'x' ∨ c = 'X' := fun c => toLower_eq_iff rfl (by decide)
  have hl : ∀ c : Char, c.toLower = 'l' ↔ c = 'l' ∨ c = 'L' := fun c => toLower_eq_iff rfl (by decide)
  have hh : ∀ c : Char, c.toLower = 'h' ↔ c = 'h' ∨ c = 'H' := fun c => toLower_eq_iff rfl (by decide)
  rw [Selector.parse?, String.toList_ofList]
  constructor
  · intro h
    split at h <;> rename_i heq
    · obtain ⟨c, rest, rfl, hc, hrest⟩ := List.map_eq_cons_iff.1 heq
      cases List.map_eq_nil_iff.1 hrest
      cases h
      exact .any ((hx c).1 hc)
    · obtain ⟨c, rest, rfl, hc, hrest⟩ := List.map_eq_cons_iff.1 heq
      cases List.map_eq_nil_iff.1 hrest
      cases h
      exact .list ((hl c).1 hc)
    · obtain ⟨c, rest, rfl, hc, hrest⟩ := List.map_eq_cons_iff.1 heq
      cases List.map_eq_nil_iff.1 hrest
      cases h
      exact .heading ((hh c).1 hc)
    · obtain ⟨c, rest, rfl, hc, hrest⟩ := List.map_eq_cons_iff.1 heq
      obtain ⟨e, rest', rfl, he, hrest'⟩ := List.map_eq_cons_iff.1 hrest
      cases List.map_eq_nil_iff.1 hrest'
      obtain ⟨l, hlevel, rfl⟩ := Option.map_eq_some_iff.1 h
      rw [← he, ofDigit?_eq_some_iff] at hlevel
      rw [hlevel]
      exact .level ((hh c).1 hc) l
    · cases h
  · intro h
    cases h with
    | any hc =>
      rw [List.map_singleton, (hx _).2 hc]
      rfl
    | list hc =>
      rw [List.map_singleton, (hl _).2 hc]
      rfl
    | heading hc =>
      rw [List.map_singleton, (hh _).2 hc]
      rfl
    | level hc l =>
      rw [List.map_cons, List.map_singleton, (hh _).2 hc]
      show (HeadingLevel.ofDigit? (Nat.digitChar l.number).toLower).map Selector.level = _
      rw [ofDigit?_eq_some_iff.2 rfl]
      rfl

/-- A place has a marker of two characters there, or one of one character, or both. -/
theorem mem_markersAt_iff {s : List Char} {selector : Selector} {n : Nat} :
    (selector, n) ∈ markersAt s ↔
      ∃ marker r, s = marker ++ r ∧ marker.length = n ∧ Marker marker selector := by
  simp only [markersAt, List.mem_filterMap]
  constructor
  · rintro ⟨k, -, h⟩
    split at h
    · rename_i hk
      obtain ⟨selector', hparse, heq⟩ := Option.map_eq_some_iff.1 h
      cases heq
      exact ⟨s.take n, s.drop n, (List.take_append_drop n s).symm, List.length_take_of_le hk,
        parse?_eq_some_iff.1 hparse⟩
    · cases h
  · rintro ⟨marker, r, rfl, rfl, hmarker⟩
    refine ⟨marker.length, ?_, ?_⟩
    · cases hmarker <;> simp
    · rw [if_pos (by simp), List.take_left, parse?_eq_some_iff.2 hmarker]
      rfl

end Rubric.Template

namespace Rubric.Registry

/-! ## The names of styles -/

def known : List String := aliases.map Prod.fst ++ styles.map CounterStyle.name

theorem mem_known {name : String} {style : CounterStyle} (h : find? name = some style) : name ∈ known := by
  have hname : style.name = canonical name := by simpa using List.find?_some h
  rw [canonical] at hname
  cases halias : aliases.lookup name with
  | none =>
    rw [halias, Option.getD_none] at hname
    exact List.mem_append_right _ (hname ▸ List.mem_map_of_mem (List.mem_of_find?_eq_some h))
  | some value =>
    obtain ⟨before, behind, heq, -⟩ := List.lookup_eq_some_iff.1 halias
    refine List.mem_append_left _ (List.mem_map.2 ⟨(name, value), ?_, rfl⟩)
    rw [heq]
    exact List.mem_append_right _ (List.mem_cons_self ..)

/-- A name cannot be mistaken for a marker and another name: the rest of a name that begins like a marker
begins with a letter and is no name, and only the alias of one digit begins with a digit. -/
def distinguished : List Char → Bool
  | [] => false
  | [c] => (Selector.parse? (String.ofList [c])).isNone && (!c.isDigit || c == '1')
  | c :: d :: r =>
    !c.isDigit &&
      ((Selector.parse? (String.ofList [c])).isNone || (d.isAlpha && (find? (String.ofList (d :: r))).isNone))

theorem distinguished_known : ∀ name ∈ known, distinguished name.toList := by decide +kernel

variable {style : CounterStyle} {c : Char} {r : List Char}

theorem find?_nil : find? (String.ofList []) = none := by
  cases h : find? (String.ofList []) with
  | none => rfl
  | some style =>
    have hcheck := distinguished_known _ (mem_known h)
    rw [String.toList_ofList] at hcheck
    cases hcheck

/-- Only the alias of one digit begins with a digit. -/
theorem eq_of_isDigit (h : find? (String.ofList (c :: r)) = some style) (hc : c.isDigit) : c = '1' ∧ r = [] := by
  have hcheck := distinguished_known _ (mem_known h)
  rw [String.toList_ofList] at hcheck
  cases r with
  | nil =>
    simp only [distinguished, hc, Bool.not_true, Bool.false_or, Bool.and_eq_true, beq_iff_eq] at hcheck
    exact ⟨hcheck.2, rfl⟩
  | cons d r => simp [distinguished, hc] at hcheck

/-- The rest of a name that begins like a marker begins with a letter, and is no name. -/
theorem find?_behind_marker (h : find? (String.ofList (c :: r)) = some style)
    (hc : (Selector.parse? (String.ofList [c])).isSome) :
    find? (String.ofList r) = none ∧ ∃ d r', r = d :: r' ∧ d.isAlpha := by
  have hcheck := distinguished_known _ (mem_known h)
  rw [String.toList_ofList] at hcheck
  have hnot : (Selector.parse? (String.ofList [c])).isNone = false := by
    rw [← Option.not_isSome, hc]
    rfl
  cases r with
  | nil =>
    simp only [distinguished, hnot, Bool.false_and] at hcheck
    cases hcheck
  | cons d r =>
    simp only [distinguished, hnot, Bool.false_or, Bool.and_eq_true, Option.isNone_iff_eq_none] at hcheck
    exact ⟨hcheck.2.2, d, r, rfl, hcheck.2.1⟩

end Rubric.Registry
