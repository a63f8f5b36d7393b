import Rubric.Proofs.Template.Tokens

/-!
# Templates are what their grammar says

* `readCounter_sound`, `readCounter_marked`, `readCounter_numeral` : where a text can be read as the name of
  a style, or as a marker, literal text and the name of a style, the reader finds that reading, whichever
  others it tries before;
* `readSegment_sound`, `readSegment_complete` : the same for the text of a level;
* `parse_eq_ok_iff` : a source is read as a template iff it stands for it;
* `parse_grammar` : so a source stands for one template at most.
-/

namespace Rubric.Template

/-! ## What ends where -/

theorem Stops.nil : Stops [] := by simp [Stops]

theorem Stops.comma (r : List Char) : Stops (',' :: r) := by
  rintro c ⟨⟩
  rfl

theorem Literal.head_not_alphanum {s t r : List Char} (h : Literal s t) (hr : Stops r) :
    ¬(s ++ r).head?.any Char.isAlphanum := by
  cases h with
  | nil =>
    cases r with
    | nil => simp
    | cons c r =>
      rw [hr c rfl]
      exact (by decide : ¬(','.isAlphanum : Bool) = true)
  | char halnum => exact halnum
  | quoted hquote =>
    rcases hquote with rfl | rfl
    · exact (by decide : ¬('\x22'.isAlphanum : Bool) = true)
    · exact (by decide : ¬('\x27'.isAlphanum : Bool) = true)

theorem Literal.breaks {s t r : List Char} (h : Literal s t) (hr : Stops r) : Breaks (s ++ r) := by
  intro c hc
  have halnum := h.head_not_alphanum hr
  rw [hc] at halnum
  refine ⟨halnum, ?_⟩
  rintro rfl
  cases h with
  | nil =>
    have hcomma := hr _ hc
    exact absurd hcomma (by decide)
  | char _ _ _ h =>
    cases hc
    exact h.head_not_alphanum hr
  | quoted hquote =>
    cases hc
    rcases hquote with h | h <;> exact absurd h (by decide)

theorem Name.ends {s : List Char} (h : Name s) (r : List Char) : Ends (s ++ r) := by
  obtain ⟨c, s, rfl, hc⟩ := h.exists_cons
  rintro e ⟨⟩
  exact Or.inl hc

theorem readName_of_stops {r : List Char} (h : Stops r) : readName r = ([], r) :=
  if_neg (Literal.nil.head_not_alphanum h)

/-! ## Markers and names -/

theorem pairwise_markersAt (s : List Char) : (markersAt s).Pairwise fun a b => b.2 < a.2 := by
  refine List.Pairwise.filterMap _ (fun a b hab x hx y hy => ?_) (by decide : [2, 1].Pairwise fun a b => b < a)
  have hlength : ∀ {n : Nat} {x : Selector × Nat}, (if n ≤ s.length then
      (Selector.parse? (String.ofList (s.take n))).map (·, n) else none) = some x → x.2 = n := by
    intro n x hx
    split at hx
    · obtain ⟨_, -, rfl⟩ := Option.map_eq_some_iff.1 hx
      rfl
    · cases hx
  rw [hlength hx, hlength hy]
  exact hab

theorem readCounter_hit {c d : Cursor} {selector : Selector} {n : Nat} {separator name r : List Char}
    {style : CounterStyle} (hseparator : readLiteral (c.pos + n) (c.rest.drop n) = .ok (separator, d))
    (hname : readName d.rest = (name, r)) (hstyle : Registry.find? (String.ofList name) = some style)
    (unknown : Option (Nat × String)) (markers : List (Selector × Nat)) :
    readCounter c unknown ((selector, n) :: markers) =
      .ok ⟨some selector, separator, style, ⟨d.pos + name.length, r⟩⟩ := by
  simp only [readCounter, hseparator, hname, hstyle]

/-- A marker behind which no style is named is passed over. -/
theorem readCounter_skip {c : Cursor} {before : List (Selector × Nat)}
    (h : ∀ m ∈ before, ∃ separator d, readLiteral (c.pos + m.2) (c.rest.drop m.2) = .ok (separator, d) ∧
      Registry.find? (String.ofList (readName d.rest).1) = none)
    (unknown : Option (Nat × String)) (markers : List (Selector × Nat)) :
    ∃ unknown', readCounter c unknown (before ++ markers) = readCounter c unknown' markers := by
  induction before generalizing unknown with
  | nil => exact ⟨unknown, rfl⟩
  | cons m before ih =>
    obtain ⟨⟨separator, d, hseparator, hnone⟩, hbefore⟩ := List.forall_mem_cons.1 h
    obtain ⟨selector, n⟩ := m
    rw [List.cons_append, readCounter]
    dsimp only at hseparator
    simp only [hseparator, hnone]
    split <;> exact ih hbefore _

theorem readCounter_sound {c : Cursor} {unknown : Option (Nat × String)} {markers : List (Selector × Nat)}
    {n : Counter} (hmarkers : ∀ m ∈ markers, m ∈ markersAt c.rest) (h : readCounter c unknown markers = .ok n) :
    (n.parent = none ∧ n.separator = [] ∧ ∃ name, c.rest = name ++ n.behind.rest ∧ Name name ∧
      Registry.find? (String.ofList name) = some n.style) ∨
    ∃ selector marker u name, n.parent = some selector ∧
      c.rest = marker ++ (u ++ (name ++ n.behind.rest)) ∧ Marker marker selector ∧ Literal u n.separator ∧
      Name name ∧ Registry.find? (String.ofList name) = some n.style := by
  have hnamed : ∀ {s : List Char} {style : CounterStyle},
      Registry.find? (String.ofList (readName s).1) = some style → Name (readName s).1 := by
    intro s style hstyle
    rcases name_of_readName s with hnil | ⟨hname, -⟩
    · rw [hnil, Registry.find?_nil] at hstyle
      cases hstyle
    · exact hname
  induction markers generalizing unknown with
  | nil =>
    simp only [readCounter] at h
    split at h
    · rename_i hstyle
      cases h
      exact Or.inl ⟨rfl, rfl, _, (readName_append _).symm, hnamed hstyle, hstyle⟩
    · cases h
  | cons m markers ih =>
    obtain ⟨hm, hrest⟩ := List.forall_mem_cons.1 hmarkers
    obtain ⟨selector, k⟩ := m
    simp only [readCounter] at h
    split at h
    · cases h
    · rename_i separator d hseparator
      split at h
      · rename_i hstyle
        cases h
        obtain ⟨marker, r, hc, rfl, hmarker⟩ := mem_markersAt_iff.1 hm
        rw [hc, List.drop_left] at hseparator
        obtain ⟨u, rfl, hu, -⟩ := literal_of_readLiteral hseparator
        refine Or.inr ⟨selector, marker, u, _, rfl, ?_, hmarker, hu, hnamed hstyle, hstyle⟩
        rw [hc, readName_append]
      · split at h <;> exact ih hrest h

/-- A longer marker at the place of a marker has no name of a style behind it: it has a digit where the shorter
one is followed by the alias of one digit. -/
theorem unnamed_of_longer {marker marker' u v name s t r r' : List Char} {selector selector' : Selector}
    {style : CounterStyle} (hmarker : Marker marker selector) (hu : Literal u v) (hname : Name name)
    (hstyle : Registry.find? (String.ofList name) = some style) (hs : Literal s t) (hr : Stops r)
    (hmarker' : Marker marker' selector') (heq : marker ++ (u ++ (name ++ (s ++ r))) = marker' ++ r')
    (hlength : marker.length < marker'.length) (pos : Nat) :
    ∃ separator d, readLiteral pos r' = .ok (separator, d) ∧
      Registry.find? (String.ofList (readName d.rest).1) = none := by
  cases hmarker' with
  | any | list | heading =>
    have hpos : 0 < marker.length := by cases hmarker <;> simp
    simp only [List.length_singleton] at hlength
    omega
  | @level c hc l =>
    obtain ⟨c', rfl⟩ : ∃ c', marker = [c'] := by
      cases hmarker with
      | level => simp at hlength
      | _ => exact ⟨_, rfl⟩
    have hdigit : (Nat.digitChar l.number).isDigit := (digitChar_number l).1
    have halnum : (Nat.digitChar l.number).isAlphanum := by simp [Char.isAlphanum, hdigit]
    obtain ⟨-, heq⟩ := List.cons.inj heq
    cases hu with
    | nil =>
      obtain ⟨d, name', rfl, -⟩ := hname.exists_cons
      obtain ⟨rfl, heq⟩ := List.cons.inj heq
      obtain ⟨-, rfl⟩ := Registry.eq_of_isDigit hstyle hdigit
      obtain rfl : s ++ r = r' := (List.cons.inj heq).2
      refine ⟨t, _, readLiteral_of_literal hs hr.ends _, ?_⟩
      rw [readName_of_stops hr, Registry.find?_nil]
    | char hnot =>
      obtain ⟨rfl, -⟩ := List.cons.inj heq
      exact absurd halnum hnot
    | quoted hquote =>
      obtain ⟨rfl, -⟩ := List.cons.inj heq
      rcases hquote with hquote | hquote <;> rw [hquote] at halnum <;> exact absurd halnum (by decide)

/-- A marker, literal text and the name of a style are read as these. -/
theorem readCounter_marked {marker u v name s t r : List Char} {selector : Selector} {style : CounterStyle}
    (hmarker : Marker marker selector) (hu : Literal u v) (hname : Name name)
    (hstyle : Registry.find? (String.ofList name) = some style) (hs : Literal s t) (hr : Stops r) (pos : Nat) :
    let rest := marker ++ (u ++ (name ++ (s ++ r)))
    ∃ pos', readCounter ⟨pos, rest⟩ none (markersAt rest) =
      .ok ⟨some selector, v, style, ⟨pos', s ++ r⟩⟩ := by
  intro rest
  have hmem : (selector, marker.length) ∈ markersAt rest :=
    mem_markersAt_iff.2 ⟨marker, _, rfl, rfl, hmarker⟩
  obtain ⟨before, behind, hsplit⟩ := List.append_of_mem hmem
  have hlonger : ∀ m ∈ before, marker.length < m.2 := by
    have hpairwise := pairwise_markersAt rest
    rw [hsplit, List.pairwise_append] at hpairwise
    exact fun m hm => hpairwise.2.2 m hm _ (List.mem_cons_self ..)
  have hskip : ∀ m ∈ before, ∃ separator d, readLiteral (pos + m.2) (rest.drop m.2) = .ok (separator, d) ∧
      Registry.find? (String.ofList (readName d.rest).1) = none := by
    intro m hm
    have hmem' : m ∈ markersAt rest := hsplit ▸ List.mem_append_left _ hm
    obtain ⟨marker', r', heq, hlength, hmarker'⟩ := mem_markersAt_iff.1 hmem'
    rw [heq, ← hlength, List.drop_left]
    exact unnamed_of_longer hmarker hu hname hstyle hs hr hmarker' heq (hlength ▸ hlonger m hm) _
  obtain ⟨unknown, hcounter⟩ :=
    readCounter_skip (c := ⟨pos, rest⟩) hskip none ((selector, marker.length) :: behind)
  have hseparator : readLiteral (pos + marker.length) (rest.drop marker.length) =
      .ok (v, ⟨pos + marker.length + u.length, name ++ (s ++ r)⟩) := by
    rw [List.drop_left]
    exact readLiteral_of_literal hu (hname.ends _) _
  refine ⟨pos + marker.length + u.length + name.length, ?_⟩
  rw [hsplit, hcounter]
  exact readCounter_hit (c := ⟨pos, rest⟩) hseparator (readName_of_name hname (hs.breaks hr)) hstyle _ _

theorem Name.tail {c d : Char} {r : List Char} (h : Name (c :: d :: r)) (hd : d.isAlphanum) : Name (d :: r) := by
  generalize hs : c :: d :: r = s at h
  cases h with
  | word hne h =>
    subst hs
    exact .word (by simp) (List.forall_mem_cons.1 h).2
  | @join s s' hne h h' =>
    cases s with
    | nil => exact absurd rfl hne
    | cons c' s =>
      obtain ⟨-, hs⟩ := List.cons.inj hs
      cases s with
      | nil =>
        obtain ⟨rfl, -⟩ := List.cons.inj hs
        exact absurd hd (by decide)
      | cons d' s =>
        rw [hs]
        exact .join (by simp) (List.forall_mem_cons.1 h).2 h'

/-- The name of a style alone is read as that: behind a marker with which it begins no style is named. -/
theorem readCounter_numeral {name s t r : List Char} {style : CounterStyle} (hname : Name name)
    (hstyle : Registry.find? (String.ofList name) = some style) (hs : Literal s t) (hr : Stops r) (pos : Nat) :
    let rest := name ++ (s ++ r)
    ∃ pos', readCounter ⟨pos, rest⟩ none (markersAt rest) = .ok ⟨none, [], style, ⟨pos', s ++ r⟩⟩ := by
  intro rest
  obtain ⟨c, tail, rfl, -⟩ := hname.exists_cons
  have hbreaks := hs.breaks hr
  have hskip : ∀ m ∈ markersAt rest, ∃ separator d,
      readLiteral (pos + m.2) (rest.drop m.2) = .ok (separator, d) ∧
        Registry.find? (String.ofList (readName d.rest).1) = none := by
    rintro ⟨selector, k⟩ hm
    obtain ⟨marker, r', hrest', rfl, hmarker⟩ := mem_markersAt_iff.1 hm
    dsimp only
    -- Whatever the marker is, its first character is one too.
    have hfirst : ∃ selector' behind, marker = c :: behind ∧ Marker [c] selector' ∧
        (behind = [] ∨ ∃ l : HeadingLevel, behind = [Nat.digitChar l.number]) := by
      cases hmarker with
      | any hc =>
        cases (List.cons.inj hrest').1
        exact ⟨_, _, rfl, .any hc, Or.inl rfl⟩
      | list hc =>
        cases (List.cons.inj hrest').1
        exact ⟨_, _, rfl, .list hc, Or.inl rfl⟩
      | heading hc =>
        cases (List.cons.inj hrest').1
        exact ⟨_, _, rfl, .heading hc, Or.inl rfl⟩
      | level hc l =>
        cases (List.cons.inj hrest').1
        exact ⟨_, _, rfl, .heading hc, Or.inr ⟨l, rfl⟩⟩
    obtain ⟨selector', behind, rfl, hmarker', hbehind⟩ := hfirst
    obtain ⟨hnone, d, tail, rfl, halpha⟩ :=
      Registry.find?_behind_marker hstyle (by rw [parse?_eq_some_iff.2 hmarker']; rfl)
    have halnum : d.isAlphanum := by simp [Char.isAlphanum, halpha]
    obtain ⟨-, hrest'⟩ := List.cons.inj hrest'
    rcases hbehind with rfl | ⟨l, rfl⟩
    · refine ⟨[], ⟨_, d :: tail ++ (s ++ r)⟩, readLiteral_of_literal .nil ((hname.tail halnum).ends _) _, ?_⟩
      rw [readName_of_name (hname.tail halnum) hbreaks, hnone]
    · obtain ⟨rfl, -⟩ := List.cons.inj hrest'
      exact absurd halpha (digitChar_number l).2
  obtain ⟨unknown, hcounter⟩ := readCounter_skip (c := ⟨pos, rest⟩) hskip none []
  rw [List.append_nil] at hcounter
  refine ⟨pos + (c :: tail).length, ?_⟩
  rw [hcounter]
  simp only [readCounter, rest, readName_of_name hname hbreaks, hstyle]

/-! ## Levels -/

theorem readNumeral_sound {before : List Char} {c d : Cursor} {segment : Segment}
    (h : readNumeral before c = .ok (segment, d)) {s : List Char} (hs : Literal s before) :
    ∃ u, c.rest = u ++ d.rest ∧ Spells (s ++ u) segment ∧ Ends d.rest := by
  rw [readNumeral] at h
  split at h
  · cases h
  · rename_i n hn
    obtain ⟨⟨after, d'⟩, hafter, heq⟩ := exists_of_map_eq_ok h
    cases heq
    obtain ⟨s', hbehind, hs', hd⟩ := literal_of_readLiteral hafter
    rcases readCounter_sound (fun _ hm => hm) hn with
      ⟨hparent, hseparator, name, hc, hname, hstyle⟩ |
      ⟨selector, marker, u, name, hparent, hc, hmarker, hu, hname, hstyle⟩
    · refine ⟨name ++ s', by rw [hc, hbehind, List.append_assoc], ?_, hd⟩
      rw [hparent, hseparator]
      exact .numeral hs hname hstyle hs'
    · refine ⟨marker ++ (u ++ (name ++ s')), by rw [hc, hbehind]; simp, ?_, hd⟩
      rw [hparent]
      exact .marked hs hmarker hu hname hstyle hs'

theorem not_isBlank_of_dropWhile {c : Char} {s r : List Char} (h : s.dropWhile Text.isBlank = c :: r) :
    ¬Text.isBlank c := by
  have hfirst := List.head?_dropWhile_not Text.isBlank s
  rw [h] at hfirst
  exact Bool.eq_false_iff.1 hfirst

theorem dropWhile_isBlank {blanks s : List Char} (h : ∀ c ∈ blanks, Text.isBlank c)
    (hs : ∀ c ∈ s.head?, ¬Text.isBlank c) : (blanks ++ s).dropWhile Text.isBlank = s := by
  rw [List.dropWhile_append_of_pos h]
  cases s with
  | nil => rfl
  | cons c s => exact List.dropWhile_cons_of_neg (hs c rfl)

/-- What has been read as a level is the text of one. -/
theorem readSegment_sound {c d : Cursor} {segment : Segment} (h : readSegment c = .ok (segment, d)) :
    ∃ s, c.rest = s ++ d.rest ∧ Level s segment := by
  have hblanks : ∀ e ∈ c.rest.takeWhile Text.isBlank, Text.isBlank e := List.all_eq_true.1 List.all_takeWhile
  have hsplit := List.takeWhile_append_dropWhile (p := Text.isBlank) (l := c.rest)
  have hlevel : ∀ {s : List Char} {segment : Segment}, c.rest.dropWhile Text.isBlank = s ++ d.rest →
      Spells s segment → ∃ s, c.rest = s ++ d.rest ∧ Level s segment := by
    intro s segment hs hspells
    refine ⟨_, ?_, .mk hblanks (fun e he => ?_) hspells⟩
    · rw [List.append_assoc, ← hs, hsplit]
    · obtain ⟨s, rfl⟩ := List.head?_eq_some_iff.1 he
      exact not_isBlank_of_dropWhile hs
  rw [readSegment] at h
  dsimp only [Cursor.takeWhile] at h
  split at h
  · cases h
  · rename_i before e he
    obtain ⟨s, hs, hliteral, -⟩ := literal_of_readLiteral he
    split at h
    · obtain ⟨u, hu, hspells, -⟩ := readNumeral_sound h hliteral
      rw [hu, ← List.append_assoc] at hs
      exact hlevel hs hspells
    · cases h
      exact hlevel hs (.literal hliteral)

theorem Marker.exists_cons {marker : List Char} {selector : Selector} (h : Marker marker selector) :
    ∃ c r, marker = c :: r ∧ c.isAlphanum := by
  cases h with
  | any h | list h | heading h | level h =>
    refine ⟨_, _, rfl, ?_⟩
    rcases h with rfl | rfl <;> decide

theorem readNumeral_complete {pos pos' : Nat} {rest separator s t r : List Char} {parent : Option Selector}
    {style : CounterStyle}
    (hcounter : readCounter ⟨pos, rest⟩ none (markersAt rest) = .ok ⟨parent, separator, style, ⟨pos', s ++ r⟩⟩)
    (hs : Literal s t) (hr : Stops r) (before : List Char) :
    ∃ pos', readNumeral before ⟨pos, rest⟩ =
      .ok ({ before := String.ofList before, separator := String.ofList separator, after := String.ofList t,
             parent := parent, style := some style }, ⟨pos', r⟩) := by
  refine ⟨pos' + s.length, ?_⟩
  simp only [readNumeral, hcounter, readLiteral_of_literal hs hr.ends]
  rfl

theorem readSegment_literal {c : Cursor} {s t rest : List Char} (hdrop : c.rest.dropWhile Text.isBlank = s ++ rest)
    (hs : Literal s t) (hrest : Ends rest) :
    ∃ pos, readSegment c =
      if rest.head?.any Char.isAlphanum then readNumeral t ⟨pos, rest⟩
      else .ok ({ before := String.ofList t }, ⟨pos, rest⟩) := by
  refine ⟨c.pos + (c.rest.takeWhile Text.isBlank).length + s.length, ?_⟩
  simp only [readSegment, Cursor.takeWhile, hdrop, readLiteral_of_literal hs hrest]
  rfl

theorem readSegment_numeral {c : Cursor} {s t rest : List Char} (hdrop : c.rest.dropWhile Text.isBlank = s ++ rest)
    (hs : Literal s t) (hrest : rest.head?.any Char.isAlphanum) :
    ∃ pos, readSegment c = readNumeral t ⟨pos, rest⟩ := by
  have hends : Ends rest := by
    obtain ⟨c, hc, halnum⟩ := (Option.any_eq_true _ _).1 hrest
    rw [Ends, hc]
    rintro e ⟨⟩
    exact Or.inl halnum
  obtain ⟨pos, hsegment⟩ := readSegment_literal hdrop hs hends
  exact ⟨pos, by rw [hsegment, if_pos hrest]⟩

/-- A level is read as far as the comma behind it, or to the end of the text. -/
theorem readSegment_complete {s r : List Char} {segment : Segment} (h : Level s segment) (hr : Stops r)
    (pos : Nat) : ∃ pos', readSegment ⟨pos, s ++ r⟩ = .ok (segment, ⟨pos', r⟩) := by
  obtain @⟨blanks, s, segment, hblanks, hfirst, h⟩ := h
  have hdrop : (blanks ++ s ++ r).dropWhile Text.isBlank = s ++ r := by
    rw [List.append_assoc]
    refine dropWhile_isBlank hblanks fun c hc => ?_
    cases s with
    | nil =>
      rw [hr c hc]
      decide
    | cons c s => exact hfirst _ hc
  cases h with
  | literal hs =>
    have hcomma : ¬r.head?.any Char.isAlphanum := Literal.nil.head_not_alphanum hr
    obtain ⟨pos', hsegment⟩ := readSegment_literal (c := ⟨pos, _⟩) hdrop hs hr.ends
    exact ⟨pos', by rw [hsegment, if_neg hcomma]⟩
  | @numeral s t name s' t' style hs hname hstyle hs' =>
    have hassoc : s ++ (name ++ s') ++ r = s ++ (name ++ (s' ++ r)) := by simp only [List.append_assoc]
    obtain ⟨pos', hsegment⟩ := readSegment_numeral (c := ⟨pos, _⟩) (hdrop.trans hassoc) hs (by
      obtain ⟨c, name, rfl, hc⟩ := hname.exists_cons
      exact hc)
    obtain ⟨_, hcounter⟩ := readCounter_numeral hname hstyle hs' hr pos'
    rw [hsegment]
    exact readNumeral_complete hcounter hs' hr t
  | @marked s t marker u v name s' t' selector style hs hmarker hu hname hstyle hs' =>
    have hassoc : s ++ (marker ++ (u ++ (name ++ s'))) ++ r = s ++ (marker ++ (u ++ (name ++ (s' ++ r)))) := by
      simp only [List.append_assoc]
    obtain ⟨pos', hsegment⟩ := readSegment_numeral (c := ⟨pos, _⟩) (hdrop.trans hassoc) hs (by
      obtain ⟨c, marker, rfl, hc⟩ := hmarker.exists_cons
      exact hc)
    obtain ⟨_, hcounter⟩ := readCounter_marked hmarker hu hname hstyle hs' hr pos'
    rw [hsegment]
    exact readNumeral_complete hcounter hs' hr t

/-! ## Templates -/

theorem allBlank_iff {s : List Char} : Text.allBlank s ↔ ∀ c ∈ s, Text.isBlank c := List.all_eq_true

theorem trim_eq_star_iff {s : List Char} : Text.trim s = ['*'] ↔ Star s := by
  have hstar : ¬Text.isBlank '*' := by decide
  constructor
  · intro h
    have hstart := List.takeWhile_append_dropWhile (p := Text.isBlank) (l := s)
    have hend := List.takeWhile_append_dropWhile (p := Text.isBlank) (l := (Text.trimStart s).reverse)
    have hlast : (Text.trimStart s).reverse.dropWhile Text.isBlank = ['*'] := List.reverse_eq_iff.1 h
    rw [hlast, ← List.reverse_inj, List.reverse_reverse, List.reverse_append] at hend
    rw [← hstart, show s.dropWhile Text.isBlank = _ from hend.symm]
    exact .mk (List.all_eq_true.1 List.all_takeWhile)
      fun c hc => List.all_eq_true.1 List.all_takeWhile c (List.mem_reverse.1 hc)
  · rintro @⟨blanks, blanks', h, h'⟩
    have hend : ∀ c ∈ blanks'.reverse, Text.isBlank c := fun c hc => h' c (List.mem_reverse.1 hc)
    rw [Text.trim, Text.trimStart, dropWhile_isBlank h (by rintro c ⟨⟩; exact hstar), Text.trimEnd,
      List.reverse_cons, dropWhile_isBlank hend (by rintro c ⟨⟩; exact hstar)]
    rfl

/-- What has been read as the levels of a template is the text of one. -/
theorem readSegments_sound {c : Cursor} {t : Template} (h : readSegments c = .ok t) : Derives c.rest t := by
  fun_induction readSegments c generalizing t with
  | case1 => cases h
  | case2 c segment d hseg hrest =>
    cases h
    obtain ⟨s, hc, hlevel⟩ := readSegment_sound hseg
    rw [hc, hrest, List.append_nil]
    exact .last hlevel
  | case3 c segment d hseg r hstar hrest =>
    cases h
    obtain ⟨s, hc, hlevel⟩ := readSegment_sound hseg
    rw [hc, hrest]
    exact .repeated hlevel (trim_eq_star_iff.1 hstar)
  | case4 => cases h
  | case5 c segment d hseg r hstar hblank hrest ih =>
    obtain ⟨deeper, hdeeper, rfl⟩ := exists_of_map_eq_ok h
    obtain ⟨s, hc, hlevel⟩ := readSegment_sound hseg
    rw [hc, hrest]
    exact .next hlevel (fun h => hstar (trim_eq_star_iff.2 h)) (fun h => hblank (allBlank_iff.2 h)) (ih hdeeper)
  | case6 => cases h

theorem readSegments_of_readSegment {c d : Cursor} {segment : Segment}
    (h : readSegment c = .ok (segment, d)) :
    readSegments c = match d.rest with
      | [] => .ok ⟨segment, [], false⟩
      | x :: r =>
        if x = ',' then
          if Text.trim r = ['*'] then .ok ⟨segment, [], true⟩
          else if Text.allBlank r then .error (.malformed (d.pos + 1) (String.ofList r) .templateAfterComma)
          else (readSegments ⟨d.pos + 1, r⟩).map (cons segment)
        else .error (.malformed d.pos (String.ofList (x :: r)) .commaOrEnd) := by
  rw [readSegments]
  split <;> rename_i heq <;> rw [h] at heq <;> cases heq
  split <;> rename_i hrest <;> rw [hrest]

/-- The text of a template is read as that template. -/
theorem readSegments_complete {s : List Char} {t : Template} (h : Derives s t) (pos : Nat) :
    readSegments ⟨pos, s⟩ = .ok t := by
  induction h generalizing pos with
  | @last s segment hlevel =>
    obtain ⟨pos', hseg⟩ := readSegment_complete hlevel .nil pos
    rw [List.append_nil] at hseg
    rw [readSegments_of_readSegment hseg]
  | @repeated s r segment hlevel hstar =>
    obtain ⟨pos', hseg⟩ := readSegment_complete hlevel (.comma r) pos
    rw [readSegments_of_readSegment hseg]
    dsimp only
    rw [if_pos rfl, if_pos (trim_eq_star_iff.2 hstar)]
  | @next s r segment t hlevel hstar hblank h ih =>
    obtain ⟨pos', hseg⟩ := readSegment_complete hlevel (.comma r) pos
    rw [readSegments_of_readSegment hseg]
    dsimp only
    rw [if_pos rfl, if_neg (fun h => hstar (trim_eq_star_iff.1 h)), if_neg (fun h => hblank (allBlank_iff.1 h)), ih]
    rfl

/-- A source is read as the template that it stands for, and only as that. -/
theorem parse_eq_ok_iff {source : String} {t : Template} :
    parse source = .ok t ↔ Derives source.toList t := by
  rw [parse]
  constructor
  · intro h
    cases hread : readSegments (.start source) with
    | error fault =>
      rw [hread] at h
      cases h
    | ok t' =>
      rw [hread] at h
      cases h
      exact readSegments_sound hread
  · intro h
    rw [Cursor.start, readSegments_complete h]
    rfl

/-- A source is read as a template iff it stands for one, and it stands for none but the one that is read. -/
theorem parse_grammar (source : String) :
    ((∃ t, parse source = .ok t) ↔ ∃ t, Derives source.toList t) ∧
      (∀ t u, Derives source.toList t → Derives source.toList u → t = u) ∧
      ∀ t, Derives source.toList t → parse source = .ok t := by
  refine ⟨exists_congr fun t => parse_eq_ok_iff, fun t u ht hu => ?_, fun t => parse_eq_ok_iff.2⟩
  have hparse := parse_eq_ok_iff.2 ht
  rw [parse_eq_ok_iff.2 hu] at hparse
  cases hparse
  rfl

/-- Though it begins like the marker of a level, this source stands for the marker of headings and the alias of
a style. -/
theorem parse_grammar_digit :
    let t : Template := ⟨{ parent := some .heading, style := Registry.find? "1" }, [], false⟩
    Derives "H1".toList t ∧ (∀ u, Derives "H1".toList u → t = u) ∧ parse "H1" = .ok t := by
  intro t
  have h : Derives "H1".toList t := parse_eq_ok_iff.1 (by decide +kernel)
  exact ⟨h, fun u => (parse_grammar "H1").2.1 t u h, (parse_grammar "H1").2.2 t h⟩

end Rubric.Template
