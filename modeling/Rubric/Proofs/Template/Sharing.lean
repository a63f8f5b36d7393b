import Mathlib.Data.List.Nodup
import Rubric.Labelling.State
import Rubric.Proofs.Template.Context

/-!
# Templates in contexts with different pasts

What a context has read before decides which numbers its sources have, and nothing else.

* `Context.Distinct c` : no source has two numbers;
* `Context.SameSource c c' n m` : the numbers `n` in `c` and `m` in `c'` stand for one source;
* `Instance.Alike c c' i j` : instances of one template at one place, up to the number of its source;
* `read_alike` : two contexts read a source to such instances, or with the same error;
* `Context.Reaches c c'` : `c'` comes of reading sources in `c`;
* `parse_eq_iff` : instances that are read one after the other in one context are equal if and only if their
  sources are.
-/

namespace Rubric.Template

namespace Context

def Distinct (c : Context) : Prop := c.sources.Nodup

def SameSource (c c' : Context) (n m : Nat) : Prop :=
  ∃ source, c.sources[n]? = some source ∧ c'.sources[m]? = some source

theorem Extends.getElem? {c c' : Context} (h : Extends c c') {n : Nat} {source : String}
    (hn : c.sources[n]? = some source) : c'.sources[n]? = some source := by
  obtain ⟨more, hm⟩ := h
  rw [hm, List.getElem?_append_left (List.getElem?_eq_some_iff.1 hn).1, hn]

theorem Distinct.eq_of_getElem? {c : Context} (h : c.Distinct) {n m : Nat} {source : String}
    (hn : c.sources[n]? = some source) (hm : c.sources[m]? = some source) : n = m :=
  (List.getElem?_inj (List.getElem?_eq_some_iff.1 hn).1 h).1 (hn.trans hm.symm)

theorem Distinct.number {c : Context} (h : c.Distinct) (source : String) : (c.number source).2.Distinct := by
  unfold Context.number
  split
  · exact h
  · rename_i hnone
    have hnot : source ∉ c.sources := List.idxOf?_eq_none_iff.1 hnone
    exact List.nodup_append.2 ⟨h, List.nodup_singleton source, fun a ha b hb heq => by
      rw [List.mem_singleton.1 hb] at heq
      exact hnot (heq ▸ ha)⟩

theorem Distinct.parse {c : Context} (h : c.Distinct) (source : String) : (c.parse source).2.Distinct := by
  unfold Context.parse
  split
  · exact h
  · exact h.number source

namespace SameSource
variable {c c' d d' : Context} {n m n' m' : Nat}

theorem mono (h : SameSource c c' n m) (hc : Extends c d) (hc' : Extends c' d') : SameSource d d' n m := by
  obtain ⟨source, hn, hm⟩ := h
  exact ⟨source, hc.getElem? hn, hc'.getElem? hm⟩

theorem eq_iff (hc : c.Distinct) (hc' : c'.Distinct) (h : SameSource c c' n m)
    (h' : SameSource c c' n' m') : n = n' ↔ m = m' := by
  obtain ⟨source, hn, hm⟩ := h
  obtain ⟨source', hn', hm'⟩ := h'
  constructor
  · rintro rfl
    rw [hn] at hn'
    cases hn'
    exact hc'.eq_of_getElem? hm hm'
  · rintro rfl
    rw [hm] at hm'
    cases hm'
    exact hc.eq_of_getElem? hn hn'

theorem number (c c' : Context) (source : String) :
    SameSource (c.number source).2 (c'.number source).2 (c.number source).1 (c'.number source).1 :=
  ⟨source, sources_number c source, sources_number c' source⟩

end SameSource
end Context

/-! ## Instances -/

/-- Instances of one template at one place, up to the number of its source. -/
structure Instance.Alike (c c' : Context) (i j : Instance) : Prop where
  template : i.template = j.template
  source : c.SameSource c' i.source j.source
  depth : i.depth = j.depth

namespace Instance.Alike
variable {c c' d d' : Context} {i j : Instance}

theorem mono (h : Alike c c' i j) (hc : c.Extends d) (hc' : c'.Extends d') : Alike d d' i j :=
  ⟨h.template, h.source.mono hc hc', h.depth⟩

theorem child (h : Alike c c' i j) : Option.Rel (Alike c c') i.child? j.child? := by
  obtain ⟨template, source, depth⟩ := i
  obtain ⟨template', source', depth'⟩ := j
  obtain ⟨rfl, hsource, rfl⟩ := h
  rw [child?, child?]
  cases template.child? with
  | none => exact .none
  | some t => exact .some ⟨rfl, hsource, rfl⟩

end Instance.Alike

theorem relAlike_mono {c c' d d' : Context} {a b : Option Instance}
    (h : Option.Rel (Instance.Alike c c') a b) (hc : c.Extends d) (hc' : c'.Extends d') :
    Option.Rel (Instance.Alike d d') a b := by
  cases h with
  | none => exact .none
  | some h => exact .some (h.mono hc hc')

/-! ## Reading -/

/-- What comes of reading a template that may be absent, in two contexts. -/
inductive ReadAlike (c c' : Context) :
    Except LabelError (Option Instance) → Except LabelError (Option Instance) → Prop
  | error (e : LabelError) : ReadAlike c c' (.error e) (.error e)
  | ok {a b : Option Instance} (h : Option.Rel (Instance.Alike c c') a b) : ReadAlike c c' (.ok a) (.ok b)

namespace Context

theorem Distinct.read {c : Context} (h : c.Distinct) (origin : TemplateOrigin) (source : Option String) :
    (c.read origin source).2.Distinct := by
  cases source with
  | none => exact h
  | some source =>
    have := h.parse source
    rw [Context.read]
    split <;> rename_i heq <;> rwa [heq] at this

theorem extends_read (c : Context) (origin : TemplateOrigin) (source : Option String) :
    Extends c (c.read origin source).2 := by
  cases source with
  | none => exact .refl c
  | some source =>
    have := c.extends_parse source
    rw [read]
    split <;> rename_i heq <;> rwa [heq] at this

/-- Two contexts read a source alike. -/
theorem read_alike (c c' : Context) (origin : TemplateOrigin) (source : Option String) :
    ReadAlike (c.read origin source).2 (c'.read origin source).2 (c.read origin source).1
      (c'.read origin source).1 := by
  cases source with
  | none => exact .ok .none
  | some source =>
    rw [read, read, parse, parse]
    cases Template.parse source with
    | error e => exact .error _
    | ok t => exact .ok (.some ⟨rfl, .number c c' source, rfl⟩)

/-! ## Contexts in use -/

/-- Reading sources in a context leads to another. -/
inductive Reaches (c : Context) : Context → Prop
  | refl : Reaches c c
  | parse {c' : Context} (h : Reaches c c') (source : String) : Reaches c (c'.parse source).2

variable {c c' c'' : Context}

theorem Reaches.trans (h : Reaches c c') (h' : Reaches c' c'') : Reaches c c'' := by
  induction h' with
  | refl => exact h
  | parse _ source ih => exact ih.parse source

theorem Reaches.read (h : Reaches c c') (origin : TemplateOrigin) (source : Option String) :
    Reaches c (c'.read origin source).2 := by
  cases source with
  | none => exact h
  | some source =>
    have := h.parse source
    rw [Context.read]
    split <;> rename_i heq <;> rwa [heq] at this

theorem Reaches.extends (h : Reaches c c') : Extends c c' := by
  induction h with
  | refl => exact .refl c
  | parse _ source ih => exact ih.trans (extends_parse _ source)

theorem Reaches.distinct (h : Reaches c c') (hc : c.Distinct) : c'.Distinct := by
  induction h with
  | refl => exact hc
  | parse _ source ih => exact ih.parse source

theorem source_parse {source : String} {i : Instance} (h : (c.parse source).1 = .ok i) :
    i.depth = 0 ∧ (c.parse source).2.sources[i.source]? = some source ∧
      Template.parse source = .ok i.template := by
  rw [parse] at h ⊢
  cases ht : Template.parse source with
  | error e =>
    rw [ht] at h
    cases h
  | ok t =>
    rw [ht] at h
    cases h
    exact ⟨rfl, sources_number c source, rfl⟩

/-- Instances that are read in one context, whatever is read in between, are equal if and only if their sources
are. -/
theorem parse_eq_iff {source source' : String} {i j : Instance} (hc : c.Distinct)
    (hi : (c.parse source).1 = .ok i) (h : Reaches (c.parse source).2 c')
    (hj : (c'.parse source').1 = .ok j) : i = j ↔ source = source' := by
  obtain ⟨hdepth, hsource, htemplate⟩ := source_parse hi
  obtain ⟨hdepth', hsource', htemplate'⟩ := source_parse hj
  have hlater := (h.extends.trans (extends_parse c' source')).getElem? hsource
  constructor
  · rintro rfl
    exact Option.some.inj (hlater.symm.trans hsource')
  · rintro rfl
    have hdistinct := (h.distinct (hc.parse source)).parse source
    obtain ⟨template, n, depth⟩ := i
    obtain ⟨template', m, depth'⟩ := j
    cases hdepth
    cases hdepth'
    cases hdistinct.eq_of_getElem? hlater hsource'
    cases htemplate.symm.trans htemplate'
    rfl

end Context
end Rubric.Template
