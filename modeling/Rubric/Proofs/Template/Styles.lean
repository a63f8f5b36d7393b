import Rubric.Proofs.Counter.Numerals
import Rubric.Proofs.Template.Context

/-!
# The styles of templates

* `Template.Registered` : all numerals of a template are written in predefined styles;
* `registered_parse` : so are those of a template that has been read;
* `segments_below` : every level below a template is one of its own; `Context.Holds.registered` : so its
  numerals are written in predefined styles, too.
-/

namespace Rubric
namespace Template

def Registered (t : Template) : Prop :=
  ∀ s ∈ t.segments, ∀ style, s.style = some style → style ∈ Registry.styles

theorem registered_of_find? {name : String} {style : CounterStyle}
    (h : Registry.find? name = some style) : style ∈ Registry.styles :=
  List.mem_of_find?_eq_some h

theorem readCounter_registered {c : Cursor} {unknown : Option (Nat × String)}
    {markers : List (Selector × Nat)} {n : Counter} (h : readCounter c unknown markers = .ok n) :
    n.style ∈ Registry.styles := by
  induction markers generalizing unknown with
  | nil =>
    simp only [readCounter] at h
    split at h
    · rename_i hfind
      cases h
      exact registered_of_find? hfind
    · cases h
  | cons m markers ih =>
    simp only [readCounter] at h
    split at h
    · cases h
    · split at h
      · rename_i hfind
        cases h
        exact registered_of_find? hfind
      · split at h
        · exact ih h
        · exact ih h

theorem readSegment_registered {c d : Cursor} {s : Segment} (h : readSegment c = .ok (s, d))
    {style : CounterStyle} (hs : s.style = some style) : style ∈ Registry.styles := by
  simp only [readSegment] at h
  split at h
  · cases h
  · split at h
    · simp only [readNumeral] at h
      split at h
      · cases h
      · rename_i n hn
        cases hafter : readLiteral n.behind.pos n.behind.rest with
        | error fault =>
          rw [hafter] at h
          cases h
        | ok after =>
          rw [hafter] at h
          cases h
          cases hs
          exact readCounter_registered hn
    · cases h
      cases hs

theorem readSegments_registered {c : Cursor} {t : Template} (h : readSegments c = .ok t) :
    t.Registered := by
  fun_induction readSegments c generalizing t with
  | case1 => cases h
  | case2 c segment d hseg =>
    cases h
    intro s hs style hstyle
    rw [List.mem_singleton.1 hs] at hstyle
    exact readSegment_registered hseg hstyle
  | case3 c segment d hseg =>
    cases h
    intro s hs style hstyle
    rw [List.mem_singleton.1 hs] at hstyle
    exact readSegment_registered hseg hstyle
  | case4 => cases h
  | case5 c segment d hseg r hrest hstar hblank ih =>
    cases hdeeper : readSegments ⟨d.pos + 1, r⟩ with
    | error fault =>
      rw [hdeeper] at h
      cases h
    | ok deeper =>
      rw [hdeeper] at h
      cases h
      intro s hs style hstyle
      rcases List.mem_cons.1 hs with rfl | hs
      · exact readSegment_registered hseg hstyle
      · exact ih hdeeper s hs style hstyle
  | case6 => cases h

/-- A template that has been read is written in predefined styles. -/
theorem registered_parse {source : String} {t : Template} (h : Template.parse source = .ok t) :
    t.Registered := by
  rw [parse] at h
  cases hread : readSegments (.start source) with
  | error fault =>
    rw [hread] at h
    cases h
  | ok t' =>
    rw [hread] at h
    cases h
    exact readSegments_registered hread

theorem segments_child {t u : Template} (h : t.child? = some u) : u.segments ⊆ t.segments := by
  rw [child?] at h
  split at h
  · rename_i hdeeper
    cases h
    intro s hs
    refine List.mem_cons_of_mem _ ?_
    rwa [hdeeper]
  · split at h
    · cases h
      exact List.Subset.refl _
    · cases h

/-- Every level below a template is one of its own. -/
theorem segments_below {t u : Template} {n : Nat} (h : t.below? n = some u) : u.segments ⊆ t.segments := by
  induction n generalizing u with
  | zero =>
    cases h
    exact List.Subset.refl _
  | succ n ih =>
    rw [below?_succ] at h
    obtain ⟨w, hw, hc⟩ := Option.bind_eq_some_iff.1 h
    exact List.Subset.trans (segments_child hc) (ih hw)

theorem Context.Holds.registered {c : Context} {i : Instance} (h : c.Holds i) :
    i.template.Registered := by
  obtain ⟨source, t, -, ht, hb⟩ := h
  exact fun s hs => registered_parse ht s (segments_below hb hs)

theorem Context.Holds.style_mem {c : Context} {i : Instance} (h : c.Holds i)
    {style : CounterStyle} (hs : i.template.segment.style = some style) :
    style ∈ Registry.styles := h.registered _ (List.mem_cons_self ..) style hs

end Template
end Rubric
