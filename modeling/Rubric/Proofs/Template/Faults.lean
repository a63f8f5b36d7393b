import Rubric.Proofs.Template.Printing

/-!
# The places of faults

The error for a source that is no template names a place of the source and says what is wrong there.

* `Closed quote s` : a quotation that begins in front of `s` ends in it;
* `Outside r s` : no quotation that begins in `s` goes on in `r` behind it;
* `Expectation.Missing` : what stands around the place of a malformed template;
* `TemplateFault.PointsInto` : what a fault says is so at its place;
* `Place` : the text in front of a cursor, and what all readers know about it;
* `parse_fault` : the fault of a source points into the source.
-/

namespace Rubric.Template

/-! ## Quotations -/

/-- A quotation that begins in front of the text ends in it: there is a quote that is not one of two. -/
def Closed (quote : Char) (s : List Char) : Prop :=
  ∃ u t r, s = u ++ quote :: r ∧ Quoted quote u t ∧ r.head? ≠ some quote

/-- Every quotation that begins in a text ends in it, although the text goes on. -/
inductive Outside (r : List Char) : List Char → Prop where
  | nil : Outside r []
  | char {c : Char} {s : List Char} (hc : ¬isQuote c) (h : Outside r s) : Outside r (c :: s)
  | quoted {quote : Char} {s t s' : List Char} (hquote : isQuote quote) (h : Quoted quote s t)
      (hend : (s' ++ r).head? ≠ some quote) (h' : Outside r s') : Outside r (quote :: (s ++ quote :: s'))

end Template

/-! ## Faults -/

/-- What is wrong between the text in front of a place and the text behind it. -/
def Expectation.Missing (before behind : List Char) : Expectation → Prop
  | templateAfterComma => before.getLast? = some ',' ∧ ∀ c ∈ behind, Text.isBlank c
  | commaOrEnd => ∃ c r, behind = c :: r ∧ c.isAlphanum
  | closingQuote =>
    ∃ quote r, behind = quote :: r ∧ Template.isQuote quote ∧ Template.Outside behind before ∧
      ¬Template.Closed quote r

/-- A fault is at a place of the source. What is malformed is all of the source from there on. A name that is
unknown stands there, as long as it can be and with no letter or digit in front. -/
def TemplateFault.PointsInto (source : List Char) (fault : TemplateFault) : Prop :=
  ∃ before behind, source = before ++ behind ∧ before.length = fault.offset ∧
    match fault with
    | .malformed _ fragment expected => fragment.toList = behind ∧ expected.Missing before behind
    | .unknownStyle _ name =>
      ∃ r, behind = name.toList ++ r ∧ Template.Name name.toList ∧ Template.Breaks r ∧
        (∀ c ∈ before.getLast?, ¬c.isAlphanum) ∧ name ∉ Registry.known

theorem TemplateFault.PointsInto.offset_le {source : List Char} {fault : TemplateFault}
    (h : fault.PointsInto source) : fault.offset ≤ source.length := by
  obtain ⟨before, behind, rfl, hlength, -⟩ := h
  rw [← hlength, List.length_append]
  exact Nat.le_add_right ..

theorem Registry.not_mem_known {name : String} (h : find? name = none) : name ∉ known := by
  have hall : ∀ name ∈ known, (find? name).isSome := by decide +kernel
  intro hmem
  have hsome := hall name hmem
  rw [h] at hsome
  cases hsome

namespace Template

/-! ## The text in front of a place -/

section Outside
variable {r s u : List Char}

theorem Outside.of_forall (h : ∀ c ∈ s, ¬isQuote c) : Outside r s := by
  induction s with
  | nil => exact .nil
  | cons c s ih =>
    obtain ⟨hc, hs⟩ := List.forall_mem_cons.1 h
    exact .char hc (ih hs)

theorem Outside.append (h : Outside (u ++ r) s) (hu : Outside r u) : Outside r (s ++ u) := by
  induction h with
  | nil => exact hu
  | char hc h ih => exact .char hc ih
  | @quoted quote s t s' hquote h hend h' ih =>
    rw [List.cons_append, List.append_assoc, List.cons_append]
    exact .quoted hquote h (by rwa [List.append_assoc]) ih

theorem Outside.of_literal {t : List Char} (h : Literal s t) (hr : Ends r) : Outside r s := by
  induction h with
  | nil => exact .nil
  | char halnum hcomma hquote h ih => exact .char (fun hc => (isQuote_iff.1 hc).elim hquote.1 hquote.2) ih
  | @quoted quote s t s' t' hquote h hend h' ih =>
    refine .quoted (isQuote_iff.2 hquote) h ?_ ih
    cases s' with
    | nil => exact hr.head?_ne hquote
    | cons c s' => exact hend

end Outside

theorem not_isQuote_of_isAlphanum {c : Char} (h : c.isAlphanum) : ¬isQuote c := by
  intro hquote
  rcases isQuote_iff.1 hquote with rfl | rfl <;> revert h <;> decide

/-- No letter or digit stands at the end of a text. -/
def Apart (s : List Char) : Prop := ∀ c ∈ s.getLast?, ¬c.isAlphanum

theorem Apart.append {s u : List Char} (hs : Apart s) (hu : Apart u) : Apart (s ++ u) := by
  intro c hc
  rw [List.getLast?_append] at hc
  cases hlast : u.getLast? with
  | none =>
    rw [hlast] at hc
    exact hs c hc
  | some d =>
    rw [hlast] at hc
    cases hc
    exact hu _ hlast

theorem Apart.append_of_ne_nil {s u : List Char} (hne : u ≠ []) (hu : Apart u) : Apart (s ++ u) := by
  intro c hc
  rw [List.getLast?_append_of_ne_nil _ hne] at hc
  exact hu c hc

theorem Apart.singleton {c : Char} (hc : ¬c.isAlphanum) : Apart [c] := by
  rintro d ⟨⟩
  exact hc

theorem Literal.apart {s t : List Char} (h : Literal s t) : Apart s := by
  induction h with
  | nil => exact fun c hc => by cases hc
  | char halnum hcomma hquote h ih => exact (Apart.singleton halnum).append ih
  | @quoted quote s t s' t' hquote h hend h' ih =>
    have hclosing : Apart ((quote :: s) ++ [quote]) :=
      .append_of_ne_nil (by simp) (.singleton fun halnum => not_isQuote_of_isAlphanum halnum (isQuote_iff.2 hquote))
    have happart := hclosing.append ih
    rwa [List.append_assoc] at happart

theorem Marker.isAlphanum {marker : List Char} {selector : Selector} (h : Marker marker selector) :
    ∀ c ∈ marker, c.isAlphanum := by
  intro c hc
  cases h with
  | any h =>
    cases List.mem_singleton.1 hc
    rcases h with rfl | rfl <;> decide
  | list h =>
    cases List.mem_singleton.1 hc
    rcases h with rfl | rfl <;> decide
  | heading h =>
    cases List.mem_singleton.1 hc
    rcases h with rfl | rfl <;> decide
  | level h l =>
    rcases List.mem_cons.1 hc with rfl | hc
    · rcases h with rfl | rfl <;> decide
    · cases List.mem_singleton.1 hc
      rw [Char.isAlphanum, (digitChar_number l).1, Bool.or_true]

theorem Name.not_isQuote {s : List Char} (h : Name s) : ∀ c ∈ s, ¬isQuote c := by
  induction h with
  | word hne h => exact fun c hc => not_isQuote_of_isAlphanum (h c hc)
  | join hne h h' ih =>
    intro c hc
    rcases List.mem_append.1 hc with hc | hc
    · exact not_isQuote_of_isAlphanum (h c hc)
    · rcases List.mem_cons.1 hc with rfl | hc
      · decide
      · exact ih c hc

theorem not_isQuote_of_isBlank {c : Char} (h : Text.isBlank c) : ¬isQuote c := by
  intro hquote
  rcases isQuote_iff.1 hquote with rfl | rfl <;> revert h <;> decide

/-! ## Readers -/

/-- The text in front of a cursor. No quotation goes on at the cursor. -/
structure Place (source before : List Char) (c : Cursor) : Prop where
  text : source = before ++ c.rest
  length : before.length = c.pos
  outside : Outside c.rest before

theorem Place.start (source : String) : Place source.toList [] (.start source) := ⟨rfl, rfl, .nil⟩

section Places
variable {source before : List Char} {c d : Cursor} {fault : TemplateFault}

theorem Place.step (h : Place source before c) (hreach : c.Reaches d) {u : List Char} (hu : c.rest = u ++ d.rest)
    (hout : Outside d.rest u) : Place source (before ++ u) d := by
  obtain ⟨read, hread, hpos⟩ := hreach
  obtain rfl : u = read := List.append_cancel_right (hu.symm.trans hread)
  refine ⟨by rw [h.text, hu, List.append_assoc], ?_, ?_⟩
  · rw [List.length_append, h.length, hpos]
  · refine Outside.append ?_ hout
    rw [← hu]
    exact h.outside

theorem Place.literal (h : Place source before c) {t : List Char} (hread : readLiteral c.pos c.rest = .ok (t, d)) :
    ∃ u, Literal u t ∧ Place source (before ++ u) d ∧ Ends d.rest := by
  obtain ⟨u, hu, hliteral, hends⟩ := literal_of_readLiteral hread
  exact ⟨u, hliteral, h.step (reaches_readLiteral hread) hu (.of_literal hliteral hends), hends⟩

theorem Place.blanks (h : Place source before c) (hapart : Apart before) :
    ∃ before', Place source before' (c.takeWhile Text.isBlank).2 ∧ Apart before' := by
  have hblank : ∀ e ∈ c.rest.takeWhile Text.isBlank, Text.isBlank e := List.all_eq_true.1 List.all_takeWhile
  refine ⟨_, h.step (Cursor.reaches_takeWhile c Text.isBlank) List.takeWhile_append_dropWhile.symm
    (.of_forall fun e he => not_isQuote_of_isBlank (hblank e he)), hapart.append fun e he halnum => ?_⟩
  exact not_isBlank_of_isAlphanum halnum (hblank e (List.mem_of_getLast? he))

theorem Place.marker (h : Place source before c) {selector : Selector} {n : Nat}
    (h' : (selector, n) ∈ markersAt c.rest) :
    ∃ before', Place source before' ⟨c.pos + n, c.rest.drop n⟩ := by
  obtain ⟨marker, r, hrest, rfl, hmarker⟩ := mem_markersAt_iff.1 h'
  have hdrop : c.rest.drop marker.length = r := by rw [hrest, List.drop_left]
  exact ⟨_, h.step ⟨marker, by rw [hdrop, hrest], rfl⟩ (by rw [hdrop, hrest])
    (.of_forall fun e he => not_isQuote_of_isAlphanum (hmarker.isAlphanum e he))⟩

theorem Place.name (h : Place source before c) :
    ∃ before', Place source before' ⟨c.pos + (readName c.rest).1.length, (readName c.rest).2⟩ := by
  refine ⟨_, h.step (reaches_readName c) (readName_append c.rest).symm (.of_forall ?_)⟩
  rcases name_of_readName c.rest with hnil | ⟨hname, -⟩
  · rw [hnil]
    exact fun e he => by cases he
  · exact hname.not_isQuote

theorem Place.counter (h : Place source before c) {unknown : Option (Nat × String)}
    {markers : List (Selector × Nat)} {n : Counter} (hmarkers : ∀ m ∈ markers, m ∈ markersAt c.rest)
    (hread : readCounter c unknown markers = .ok n) : ∃ before', Place source before' n.behind := by
  induction markers generalizing unknown with
  | nil =>
    simp only [readCounter] at hread
    split at hread
    · cases hread
      exact h.name
    · cases hread
  | cons m markers ih =>
    obtain ⟨hm, hrest⟩ := List.forall_mem_cons.1 hmarkers
    obtain ⟨selector, k⟩ := m
    simp only [readCounter] at hread
    split at hread
    · cases hread
    · rename_i separator d hseparator
      split at hread
      · cases hread
        obtain ⟨before', hmarker⟩ := h.marker hm
        obtain ⟨u, -, hliteral, -⟩ := hmarker.literal hseparator
        exact hliteral.name
      · split at hread <;> exact ih hrest hread

theorem Place.segment (h : Place source before c) (hapart : Apart before) {s : Segment}
    (hread : readSegment c = .ok (s, d)) : ∃ before', Place source before' d ∧ Ends d.rest := by
  obtain ⟨before₁, h₁, -⟩ := h.blanks hapart
  simp only [readSegment] at hread
  split at hread
  · cases hread
  · rename_i t e hliteral
    obtain ⟨u, -, h₂, hends⟩ := h₁.literal hliteral
    split at hread
    · rw [readNumeral] at hread
      split at hread
      · cases hread
      · rename_i n hn
        obtain ⟨⟨after, d'⟩, hafter, heq⟩ := exists_of_map_eq_ok hread
        cases heq
        obtain ⟨before₃, h₃⟩ := h₂.counter (fun _ hm => hm) hn
        obtain ⟨u', -, h₄, hends'⟩ := h₃.literal hafter
        exact ⟨_, h₄, hends'⟩
    · cases hread
      exact ⟨_, h₂, hends⟩

/-! ## Faults of the readers -/

theorem error_of_map {α β ε : Type} {f : α → β} {x : Except ε α} {e : ε} (h : x.map f = .error e) :
    x = .error e := by
  cases x with
  | error _ =>
    cases h
    rfl
  | ok _ => cases h

/-- A quotation that does not end is reported where it began. -/
theorem readQuoted_of_not_closed (opened : Cursor) {quote : Char} {s : List Char} (h : ¬Closed quote s) (pos : Nat) :
    readQuoted opened quote pos s = .error (.malformed opened.pos (String.ofList opened.rest) .closingQuote) := by
  match s with
  | [] => rfl
  | [c] =>
    have hc : c ≠ quote := fun heq => h ⟨[], [], [], by rw [heq]; rfl, .nil, by simp⟩
    rw [readQuoted, if_neg hc]
  | c :: d :: r =>
    rw [readQuoted]
    by_cases hc : c = quote
    · subst hc
      by_cases hd : d = c
      · subst hd
        have hrest : ¬Closed d r := fun ⟨u, t, r', hr, hquoted, hend⟩ =>
          h ⟨d :: d :: u, d :: t, r', by rw [hr]; rfl, .twice hquoted, hend⟩
        rw [if_pos rfl, if_pos rfl, readQuoted_of_not_closed opened hrest]
        rfl
      · exact absurd ⟨[], [], d :: r, rfl, .nil, by simpa using hd⟩ h
    · have hrest : ¬Closed quote (d :: r) := fun ⟨u, t, r', hr, hquoted, hend⟩ =>
        h ⟨c :: u, c :: t, r', by rw [hr]; rfl, .char hc hquoted, hend⟩
      rw [if_neg hc, readQuoted_of_not_closed opened hrest]
      rfl
termination_by s.length

/-- Literal text cannot be read where a quotation in it does not end. -/
theorem Place.fault_literal {before : List Char} {pos : Nat} {s : List Char} (h : Place source before ⟨pos, s⟩)
    (hread : readLiteral pos s = .error fault) : fault.PointsInto source := by
  match s with
  | [] => cases hread
  | c :: r =>
    rw [readLiteral] at hread
    by_cases hquote : isQuote c
    · rw [if_pos hquote] at hread
      by_cases hclosed : Closed c r
      · obtain ⟨u, t, r', rfl, hquoted, hend⟩ := hclosed
        rw [readQuoted_of_quoted hquoted hend] at hread
        have hplace : Place source (before ++ (c :: (u ++ [c]))) ⟨pos + 1 + u.length + 1, r'⟩ := by
          refine h.step ⟨c :: (u ++ [c]), by simp, ?_⟩ (by simp) (.quoted hquote hquoted hend .nil)
          simp only [List.length_cons, List.length_append, List.length_nil]
          omega
        exact hplace.fault_literal (error_of_map hread)
      · rw [readQuoted_of_not_closed _ hclosed] at hread
        cases hread
        exact ⟨before, c :: r, h.text, h.length, String.toList_ofList, c, r, rfl, hquote, h.outside, hclosed⟩
    · rw [if_neg hquote] at hread
      by_cases hchar : isLiteral c
      · rw [if_pos hchar] at hread
        have hplace : Place source (before ++ [c]) ⟨pos + 1, r⟩ :=
          h.step (Cursor.reaches_tail ..) rfl (.char hquote .nil)
        exact hplace.fault_literal (error_of_map hread)
      · rw [if_neg hchar] at hread
        cases hread
termination_by s.length
decreasing_by
  · subst_vars
    simp only [List.length_cons, List.length_append]
    omega
  · simp

theorem readName_ne_nil {s : List Char} (h : s.head?.any Char.isAlphanum) : (readName s).1 ≠ [] := by
  obtain ⟨c, hc, halnum⟩ := (Option.any_eq_true _ _).1 h
  obtain ⟨r, rfl⟩ := List.head?_eq_some_iff.1 hc
  rw [readName, if_pos h, readNameTail, if_pos (by rw [halnum, Bool.true_or])]
  simp

theorem Place.fault_name (h : Place source before c) (hapart : Apart before) (hne : (readName c.rest).1 ≠ [])
    (hstyle : Registry.find? (String.ofList (readName c.rest).1) = none) :
    (TemplateFault.unknownStyle c.pos (String.ofList (readName c.rest).1)).PointsInto source := by
  obtain ⟨hname, hbreaks⟩ := (name_of_readName c.rest).resolve_left hne
  refine ⟨before, c.rest, h.text, h.length, (readName c.rest).2, ?_, ?_, hbreaks, hapart,
    Registry.not_mem_known hstyle⟩
  · rw [String.toList_ofList, readName_append]
  · rwa [String.toList_ofList]

/-- The name that is remembered from behind a separator is reported as the first one is. -/
theorem Place.fault_counter (h : Place source before c) (hapart : Apart before) (hne : (readName c.rest).1 ≠ [])
    {unknown : Option (Nat × String)}
    (hunknown : ∀ u ∈ unknown, (TemplateFault.unknownStyle u.1 u.2).PointsInto source)
    {markers : List (Selector × Nat)} (hmarkers : ∀ m ∈ markers, m ∈ markersAt c.rest)
    (hread : readCounter c unknown markers = .error fault) : fault.PointsInto source := by
  induction markers generalizing unknown with
  | nil =>
    simp only [readCounter] at hread
    split at hread
    · cases hread
    · rename_i hstyle
      cases hread
      cases unknown with
      | none => exact h.fault_name hapart hne hstyle
      | some u => exact hunknown u rfl
  | cons m markers ih =>
    obtain ⟨hm, hrest⟩ := List.forall_mem_cons.1 hmarkers
    obtain ⟨selector, k⟩ := m
    obtain ⟨before', hmarker⟩ := h.marker hm
    simp only [readCounter] at hread
    split at hread
    · rename_i hliteral
      cases hread
      exact hmarker.fault_literal hliteral
    · rename_i separator d hliteral
      obtain ⟨u, hu, hplace, -⟩ := hmarker.literal hliteral
      split at hread
      · cases hread
      · rename_i hstyle
        split at hread
        · exact ih hunknown hrest hread
        · rename_i hsome
          rw [Bool.or_eq_true, not_or, List.isEmpty_iff, List.isEmpty_iff] at hsome
          refine ih ?_ hrest hread
          cases unknown with
          | some u => exact hunknown
          | none =>
            -- a separator that stands for some text is some text
            have hu' : u ≠ [] := by
              rintro rfl
              cases hu
              exact hsome.2 rfl
            rintro v ⟨⟩
            exact hplace.fault_name (.append_of_ne_nil hu' hu.apart) hsome.1 hstyle

theorem Place.fault_segment (h : Place source before c) (hapart : Apart before)
    (hread : readSegment c = .error fault) : fault.PointsInto source := by
  obtain ⟨before₁, h₁, hapart₁⟩ := h.blanks hapart
  simp only [readSegment] at hread
  split at hread
  · rename_i hliteral
    cases hread
    exact h₁.fault_literal hliteral
  · rename_i t e hliteral
    obtain ⟨u, hu, h₂, -⟩ := h₁.literal hliteral
    split at hread
    · rename_i halnum
      have hne := readName_ne_nil halnum
      rw [readNumeral] at hread
      split at hread
      · rename_i hcounter
        cases hread
        exact h₂.fault_counter (hapart₁.append hu.apart) hne (by simp) (fun _ hm => hm) hcounter
      · rename_i n hn
        obtain ⟨before₃, h₃⟩ := h₂.counter (fun _ hm => hm) hn
        exact h₃.fault_literal (error_of_map hread)
    · cases hread

theorem Place.fault_segments (h : Place source before c) (hapart : Apart before)
    (hread : readSegments c = .error fault) : fault.PointsInto source := by
  fun_induction readSegments c generalizing before with
  | case1 c fault' hseg =>
    cases hread
    exact h.fault_segment hapart hseg
  | case2 => cases hread
  | case3 => cases hread
  | case4 c segment d hseg r hstar hblank hrest =>
    cases hread
    obtain ⟨before', hplace, -⟩ := h.segment hapart hseg
    have htext := hplace.text
    rw [hrest] at htext
    refine ⟨before' ++ [','], r, by rw [htext]; simp, ?_, String.toList_ofList, by simp, allBlank_iff.1 hblank⟩
    rw [List.length_append, hplace.length]
    rfl
  | case5 c segment d hseg r hstar hblank hrest ih =>
    obtain ⟨before', hplace, -⟩ := h.segment hapart hseg
    have hreach : d.Reaches ⟨d.pos + 1, r⟩ := ⟨[','], hrest, rfl⟩
    have hbehind : Place source (before' ++ [',']) ⟨d.pos + 1, r⟩ :=
      hplace.step hreach hrest (.char (by decide) .nil)
    exact ih hbehind (.append_of_ne_nil (by simp) (.singleton (by decide))) (error_of_map hread)
  | case6 c segment d hseg x r hrest hx =>
    cases hread
    obtain ⟨before', hplace, hends⟩ := h.segment hapart hseg
    have htext := hplace.text
    rw [hrest] at htext hends
    exact ⟨before', x :: r, htext, hplace.length, String.toList_ofList, x, r, rfl,
      (hends x rfl).resolve_right hx⟩

end Places

/-- The error for a source that cannot be read names the source and a place of it, not behind its end, and what
it says is so there. -/
theorem parse_fault {source : String} {e : TemplateError} (h : parse source = .error e) :
    e.template = source ∧ e.fault.offset ≤ source.length ∧ e.fault.PointsInto source.toList := by
  rw [parse] at h
  cases hread : readSegments (.start source) with
  | ok t =>
    rw [hread] at h
    cases h
  | error fault =>
    rw [hread] at h
    cases h
    have hpoints := (Place.start source).fault_segments (fun c hc => by cases hc) hread
    exact ⟨rfl, hpoints.offset_le, hpoints⟩

/-- The name behind the separator is reported, and not the whole of what begins like a marker. -/
theorem parse_fault_separator :
    parse "(1),[H2.nope" = .error ⟨"(1),[H2.nope", .unknownStyle 8 "nope"⟩ ∧
      (TemplateFault.unknownStyle 8 "nope").PointsInto "(1),[H2.nope".toList := by
  have h : parse "(1),[H2.nope" = .error ⟨"(1),[H2.nope", .unknownStyle 8 "nope"⟩ := by decide +kernel
  exact ⟨h, (parse_fault h).2.2⟩

end Template
end Rubric
