import Rubric.Proofs.Counter.Letters
import Rubric.Proofs.Series.Inlined
import Rubric.Proofs.Template.Printing
import Rubric.Proofs.Template.Styles

/-!
# What labels are made of

* `Segment.text` : the literal texts of a level; `Derives.subset` : they are made of the characters of the
  source;
* `Context.Supplies c x` : a label can show the character, as a letter of a predefined style or of a source
  that has been read;
* `Placed.mem_bareText` : labels show no others;
* `Roster.Constituent` : the parts of content; `Placed.supplied` : they show no other characters, and counters
  have predefined styles;
* `Supplies.mem_source` : a bracket or the end of a line that a label shows is a character of a source.
-/

namespace Rubric

/-! ## Sources -/

def Segment.text (s : Segment) : List Char := s.before.toList ++ s.separator.toList ++ s.after.toList

namespace Template

theorem Quoted.subset {quote : Char} {s t : List Char} (h : Quoted quote s t) : t ⊆ s := by
  induction h with
  | nil => exact List.Subset.refl _
  | char _ _ ih => exact List.cons_subset_cons _ ih
  | twice _ ih => exact List.cons_subset_cons _ (List.subset_cons_of_subset _ ih)

theorem Literal.subset {s t : List Char} (h : Literal s t) : t ⊆ s := by
  induction h with
  | nil => exact List.Subset.refl _
  | char _ _ _ _ ih => exact List.cons_subset_cons _ ih
  | quoted _ hquoted _ _ ih =>
    refine List.subset_cons_of_subset _ (List.append_subset.2 ⟨?_, ?_⟩)
    · exact List.subset_append_of_subset_left _ hquoted.subset
    · exact List.subset_append_of_subset_right _ (List.subset_cons_of_subset _ ih)

theorem Spells.subset {s : List Char} {segment : Segment} (h : Spells s segment) : segment.text ⊆ s := by
  cases h with
  | literal h =>
    intro x hx
    exact h.subset (by simpa [Segment.text] using hx)
  | numeral h _ _ h' =>
    intro x hx
    rcases List.mem_append.1 (by simpa [Segment.text] using hx) with hx | hx
    · exact List.mem_append_left _ (h.subset hx)
    · exact List.mem_append_right _ (List.mem_append_right _ (h'.subset hx))
  | marked h _ hseparator _ _ h' =>
    intro x hx
    simp only [Segment.text, String.toList_ofList, List.mem_append] at hx ⊢
    rcases hx with (hx | hx) | hx
    · exact Or.inl (h.subset hx)
    · exact Or.inr (Or.inr (Or.inl (hseparator.subset hx)))
    · exact Or.inr (Or.inr (Or.inr (Or.inr (h'.subset hx))))

theorem Level.subset {s : List Char} {segment : Segment} (h : Level s segment) : segment.text ⊆ s := by
  cases h with
  | mk _ _ h => exact List.subset_append_of_subset_right _ h.subset

/-- The literal texts of a template are made of the characters of its source. -/
theorem Derives.subset {s : List Char} {t : Template} (h : Derives s t) :
    ∀ segment ∈ t.segments, segment.text ⊆ s := by
  induction h with
  | last h => exact fun segment hmem => List.mem_singleton.1 hmem ▸ h.subset
  | repeated h _ =>
    exact fun segment hmem => List.mem_singleton.1 hmem ▸ List.subset_append_of_subset_left _ h.subset
  | next h _ _ _ ih =>
    rw [segments_cons, List.forall_mem_cons]
    refine ⟨List.subset_append_of_subset_left _ h.subset, fun segment hmem => ?_⟩
    exact List.subset_append_of_subset_right _ (List.subset_cons_of_subset _ (ih segment hmem))

theorem Name.mem {s : List Char} (h : Name s) : ∀ c ∈ s, c.isAlphanum ∨ c = '-' := by
  induction h with
  | word _ h => exact fun c hc => Or.inl (h c hc)
  | join _ h _ ih =>
    exact List.forall_mem_append.2 ⟨fun c hc => Or.inl (h c hc), List.forall_mem_cons.2 ⟨Or.inr rfl, ih⟩⟩

namespace Context
variable {c : Context} {i : Instance} {x : Char}

/-- A label can show the character: it is a letter of a predefined style, or of a source. -/
def Supplies (c : Context) (x : Char) : Prop :=
  (∃ style ∈ Registry.styles, x ∈ style.letters) ∨ ∃ source ∈ c.sources, x ∈ source.toList

theorem Holds.supplies (h : c.Holds i) (hx : x ∈ i.template.segment.text) : c.Supplies x := by
  obtain ⟨source, t, hsource, ht, hbelow⟩ := h
  refine Or.inr ⟨source, List.mem_of_getElem? hsource, ?_⟩
  exact (parse_eq_ok_iff.1 ht).subset _ (segments_below hbelow (List.mem_cons_self ..)) hx

end Context
end Template

/-! ## Labels -/

/-- A part of content that shows supplied characters: such a text, or a counter in a predefined style. -/
def ContentPart.Supplied (c : Template.Context) : ContentPart → Prop
  | text s => ∀ x ∈ s.toList, c.Supplies x
  | counter _ style => ∃ known ∈ Registry.styles, style = known.name

namespace Roster
variable {c : Template.Context} {keys : List SeriesKey} {r : Roster}

theorem Placed.supplies (h : Placed c keys r) {id : SeriesId} {v : Series} (hv : r.view? id = some v) {x : Char}
    (hx : x ∈ v.segment.text) : c.Supplies x := (h.held id v hv).supplies hx

theorem Placed.style_mem (h : Placed c keys r) {id : SeriesId} {v : Series} (hv : r.view? id = some v)
    {style : CounterStyle} (hs : v.segment.style = some style) : style ∈ Registry.styles :=
  (h.held id v hv).style_mem hs

/-- A label shows letters of styles and of sources alone. -/
theorem Placed.mem_bareText (h : Placed c keys r) (id : SeriesId) :
    ∀ x ∈ (r.bareText id).toList, c.Supplies x := by
  induction id using Nat.strongRecOn with
  | _ id ih =>
    rw [bareText_eq]
    cases hv : r.view? id with
    | none => simp
    | some v =>
      cases hs : v.segment.style with
      | none => simp [hs]
      | some style =>
        have hown : ∀ x ∈ (style.format v.count).toList, c.Supplies x := fun x hx =>
          Or.inl ⟨style, h.style_mem hv hs, CounterStyle.mem_letters hx⟩
        simp only [hs]
        cases v.parent with
        | none => exact hown
        | some p =>
          dsimp only
          split
          · rename_i hlt
            split
            · exact hown
            · intro x hx
              rw [String.toList_append, String.toList_append] at hx
              rcases List.mem_append.1 hx with hx | hx
              · rcases List.mem_append.1 hx with hx | hx
                · exact ih p hlt x hx
                · exact h.supplies hv (List.mem_append_left _ (List.mem_append_right _ hx))
              · exact hown x hx
          · exact hown

/-- The parts of content: the label of a series that goes in as text, a literal text of a series, and a counter
in the style of a series. Texts are not empty. -/
inductive Constituent (r : Roster) : ContentPart → Prop where
  | label (id : SeriesId) (hne : r.bareText id ≠ "") : Constituent r (.text (r.bareText id))
  | literal {id : SeriesId} {v : Series} {s : String} (hv : r.view? id = some v)
      (hs : s ∈ [v.segment.before, v.segment.separator, v.segment.after]) (hne : s ≠ "") : Constituent r (.text s)
  | counter {id : SeriesId} {v : Series} {style : CounterStyle} (hv : r.view? id = some v)
      (hs : v.segment.style = some style) : Constituent r (.counter v.key style.name)

theorem constituent_ofText {r : Roster} {s : String} (h : s ≠ "" → r.Constituent (.text s)) :
    ∀ p ∈ Content.ofText s, r.Constituent p := by
  rw [Content.ofText]
  split
  · simp
  · rename_i hne
    exact List.forall_mem_singleton.2 (h fun heq => hne (String.isEmpty_iff.2 heq))

theorem constituent_contentCore (r : Roster) (id : SeriesId) : ∀ p ∈ r.contentCore id, r.Constituent p := by
  induction id using Nat.strongRecOn with
  | _ id ih =>
    rw [contentCore_eq]
    cases hv : r.view? id with
    | none => simp
    | some v =>
      cases hs : v.segment.style with
      | none => simp [hs]
      | some style =>
        have hown : ∀ p ∈ [ContentPart.counter v.key style.name], r.Constituent p :=
          List.forall_mem_singleton.2 (.counter hv hs)
        simp only [hs]
        split
        · exact constituent_ofText (.label id)
        · cases v.parent with
          | none => exact hown
          | some p =>
            dsimp only
            split
            · rename_i hlt
              split
              · exact hown
              · refine List.forall_mem_append.2 ⟨List.forall_mem_append.2 ⟨ih p hlt, ?_⟩, hown⟩
                exact constituent_ofText (.literal hv (by simp))
            · exact hown

theorem constituent_content (r : Roster) (id : SeriesId) : ∀ p ∈ r.content id, r.Constituent p := by
  rw [content_eq]
  cases hv : r.view? id with
  | none => simp
  | some v =>
    refine List.forall_mem_append.2 ⟨List.forall_mem_append.2 ⟨?_, constituent_contentCore r id⟩, ?_⟩
    · exact constituent_ofText (.literal hv (by simp))
    · exact constituent_ofText (.literal hv (by simp))

/-- Content shows letters of styles and of sources alone, and its counters have predefined styles. -/
theorem Placed.supplied (h : Placed c keys r) {p : ContentPart} (hp : r.Constituent p) : p.Supplied c := by
  cases hp with
  | label id => exact h.mem_bareText id
  | literal hv hs =>
    refine fun x hx => h.supplies hv ?_
    simp only [List.mem_cons, List.not_mem_nil, or_false] at hs
    rcases hs with rfl | rfl | rfl <;> simp [Segment.text, hx]
  | counter hv hs => exact ⟨_, h.style_mem hv hs, rfl⟩

end Roster

/-! ## Reserved characters -/

namespace Registry

def isReserved (c : Char) : Bool := c == '<' || c == '\n' || c == '\x0d' || c == '\x0c'

theorem no_bracket_name {style : CounterStyle} (h : style ∈ styles) : '<' ∉ style.name.toList := fun hmem =>
  absurd ((Template.Name.of_style h).mem '<' hmem) (by decide)

/-- The check is about the list of characters, which a literal is turned into at no cost. -/
theorem unreserved_glyphs {cs : List Char} (h : cs.any isReserved = false) :
    ((glyphs (String.ofList cs)).flatMap String.toList).any isReserved = false := by
  simpa [glyphs, List.flatMap_map] using h

set_option maxRecDepth 8000 in
theorem unreserved_alphabets :
    ∀ e ∈ alphabets, ((glyphs e.2).flatMap String.toList).any isReserved = false := by
  simp only [alphabets, List.forall_mem_cons]
  refine ⟨unreserved_glyphs ?_, unreserved_glyphs ?_, unreserved_glyphs ?_, unreserved_glyphs ?_,
    unreserved_glyphs ?_, unreserved_glyphs ?_, fun _ h => absurd h List.not_mem_nil⟩
  all_goals decide

set_option maxRecDepth 8000 in
theorem unreserved_syllabaries :
    ∀ e ∈ syllabaries, ((glyphs e.2).flatMap String.toList).any isReserved = false := by
  simp only [syllabaries, List.forall_mem_cons]
  refine ⟨unreserved_glyphs ?_, unreserved_glyphs ?_, unreserved_glyphs ?_, unreserved_glyphs ?_,
    unreserved_glyphs ?_, unreserved_glyphs ?_, fun _ h => absurd h List.not_mem_nil⟩
  all_goals decide

theorem unreserved_latinBlocks :
    ∀ e ∈ latinBlocks, ((codePoints e.2 26).flatMap String.toList).any isReserved = false := by
  decide +kernel

theorem unreserved_alphabetic : ∀ style ∈ alphabetic, style.rule.letters.any isReserved = false := by
  have hsign : ("-".toList ++ "".toList).any isReserved = false := by decide
  have hempty : ("".toList ++ "".toList).any isReserved = false := by decide
  have hcomma : (enumerationComma.before.toList ++ enumerationComma.after.toList).any isReserved = false := by
    decide +kernel
  have hrule : ∀ {symbols around : List Char}, symbols.any isReserved = false → around.any isReserved = false →
      (symbols ++ ("-".toList ++ "".toList) ++ around ++ []).any isReserved = false := fun hsymbols haround => by
    rw [List.append_nil, List.any_append, List.any_append, hsymbols, hsign, haround]
    rfl
  intro s hs
  simp only [alphabetic, List.mem_append, List.mem_map] at hs
  rcases hs with (⟨e, he, rfl⟩ | ⟨e, he, rfl⟩) | ⟨e, he, rfl⟩
  · exact hrule (unreserved_latinBlocks e he) hempty
  · exact hrule (unreserved_alphabets e he) hempty
  · exact hrule (unreserved_syllabaries e he) hcomma

theorem unreserved_rest : ∀ style ∈ decimal :: cjkDecimal ::
    (numeric ++ additive ++ symbolic ++ cyclic ++ fixed ++ chinese ++ [ethiopic]),
    style.rule.letters.any isReserved = false := by
  decide +kernel

theorem unreserved_rule {style : CounterStyle} (h : style ∈ styles) :
    style.rule.letters.any isReserved = false := by
  by_cases halphabetic : style ∈ alphabetic
  · exact unreserved_alphabetic style halphabetic
  · refine unreserved_rest style ?_
    simp only [styles, List.mem_cons, List.mem_append] at h ⊢
    tauto

theorem unreserved_letters {style : CounterStyle} (h : style ∈ styles) :
    style.letters.any isReserved = false := by
  have hfallbacks : ∀ style ∈ styles, ∀ r ∈ style.fallbacks, r = decimal.rule ∨ r = cjkDecimal.rule := by
    decide +kernel
  have hdecimal : decimal ∈ styles := List.mem_cons_self
  have hcjk : cjkDecimal ∈ styles := List.mem_cons_of_mem _ List.mem_cons_self
  have hdigits : CounterStyle.decimalLetters.any isReserved = false := by decide
  rw [CounterStyle.letters, List.any_append, hdigits, Bool.or_false, List.any_flatMap, List.any_eq_false]
  intro r hr
  rw [Bool.not_eq_true]
  rcases List.mem_cons.1 hr with rfl | hr
  · exact unreserved_rule h
  · rcases hfallbacks style h r hr with rfl | rfl
    · exact unreserved_rule hdecimal
    · exact unreserved_rule hcjk

end Registry

/-- A reserved character that a label shows is in a source. -/
theorem Template.Context.Supplies.mem_source {c : Template.Context} {x : Char} (h : c.Supplies x)
    (hx : Registry.isReserved x = true) : ∃ source ∈ c.sources, x ∈ source.toList :=
  h.resolve_left fun ⟨_, hstyle, hletter⟩ =>
    List.any_eq_false.1 (Registry.unreserved_letters hstyle) x hletter hx

end Rubric
