import Rubric.Proofs.Outline.Scheme
import Rubric.Template.Context

/-!
# Where templates come from

* `Context.Holds c i` : the instance `i` is what the source of its number says, at its depth;
* `Holds.eq_of_place` : instances of one place are equal;
* `Context.Extends` : sources keep their numbers.
-/

namespace Rubric.Template

namespace Context

/-- An instance is the part of a numbered source from its depth on. -/
def Holds (c : Context) (i : Instance) : Prop :=
  ∃ source t, c.sources[i.source]? = some source ∧ Template.parse source = .ok t ∧
    t.below? i.depth = some i.template

/-- The place of an instance determines it. -/
theorem Holds.eq_of_place {c : Context} {i j : Instance} (hi : c.Holds i) (hj : c.Holds j)
    (h : i.place = j.place) : i = j := by
  obtain ⟨source, t, hs, ht, hb⟩ := hi
  obtain ⟨source', t', hs', ht', hb'⟩ := hj
  obtain ⟨hsource, hdepth⟩ := Prod.mk.inj h
  rw [hsource, hs'] at hs
  cases hs
  rw [ht'] at ht
  cases ht
  rw [hdepth, hb'] at hb
  obtain ⟨template, n, k⟩ := i
  obtain ⟨template', n', k'⟩ := j
  cases hb
  cases hsource
  cases hdepth
  rfl

theorem Holds.child {c : Context} {i j : Instance} (hi : c.Holds i) (h : i.child? = some j) :
    c.Holds j := by
  obtain ⟨source, t, hs, ht, hb⟩ := hi
  obtain ⟨child, hchild, rfl⟩ := Option.map_eq_some_iff.1 h
  refine ⟨source, t, hs, ht, ?_⟩
  cases hdeeper : i.template.deeper with
  | cons segment rest =>
    simp only [List.isEmpty_cons, Bool.false_eq_true, if_false]
    rw [below?_succ, hb]
    exact hchild
  | nil =>
    simp only [List.isEmpty_nil, if_true]
    simp only [Template.child?, hdeeper] at hchild
    split at hchild
    · exact hb.trans hchild
    · cases hchild

/-- The same sources with the same numbers, and further ones. -/
def Extends (c c' : Context) : Prop := ∃ more, c'.sources = c.sources ++ more

theorem Extends.refl (c : Context) : Extends c c := ⟨[], by simp⟩

theorem Extends.trans {c₁ c₂ c₃ : Context} (h : Extends c₁ c₂) (h' : Extends c₂ c₃) :
    Extends c₁ c₃ := by
  obtain ⟨more, hm⟩ := h
  obtain ⟨more', hm'⟩ := h'
  exact ⟨more ++ more', by rw [hm', hm, List.append_assoc]⟩

theorem Holds.mono {c c' : Context} {i : Instance} (h : c.Holds i) (hc : Extends c c') :
    c'.Holds i := by
  obtain ⟨source, t, hs, ht, hb⟩ := h
  obtain ⟨more, hm⟩ := hc
  refine ⟨source, t, ?_, ht, hb⟩
  rw [hm, List.getElem?_append_left (List.getElem?_eq_some_iff.1 hs).1, hs]

theorem extends_number (c : Context) (source : String) : Extends c (c.number source).2 := by
  unfold number
  split
  · exact Extends.refl c
  · exact ⟨[source], rfl⟩

theorem sources_number (c : Context) (source : String) :
    (c.number source).2.sources[(c.number source).1]? = some source := by
  unfold number
  split
  · rename_i n hn
    obtain ⟨hlt, heq, -⟩ := List.idxOf?_eq_some_iff.1 hn
    rw [List.getElem?_eq_getElem hlt]
    simpa using heq
  · simp

theorem extends_parse (c : Context) (source : String) : Extends c (c.parse source).2 := by
  unfold parse
  split
  · exact Extends.refl c
  · exact extends_number c source

theorem holds_parse {c c' : Context} {source : String} {i : Instance}
    (h : c.parse source = (.ok i, c')) : c'.Holds i := by
  unfold parse at h
  split at h
  · cases h
  · rename_i t ht
    cases h
    exact ⟨source, t, sources_number c source, ht, rfl⟩

end Context
end Rubric.Template
