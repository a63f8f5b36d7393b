import Mathlib.Data.List.Forall2
import Rubric.Labelling.Drawing
import Rubric.Proofs.Scope.Recast
import Rubric.Proofs.Template.Sharing

/-!
# Scopes in contexts with different pasts

* `Series.unsourced` : a series without the number of its source;
* `*_unsourced` : labels, content and what a label adds do not depend on that number;
* `Scope.Alike c c' s t` : scopes that are equal but for the numbers of sources, which stand for the same
  sources in the two contexts;
* `Scope.Alike.increment`, `shrinks`, `started`, `replaced` : every change of the two keeps them alike.
-/

namespace Rubric
open Template (Context Instance)

def Series.unsourced (s : Series) : Series := { s with template := { s.template with source := 0 } }

/-- Numbers and labels do not depend on the number of a source. -/
theorem Series.recasts_unsourced : Recasts unsourced :=
  ⟨fun _ => rfl, fun _ => rfl, fun _ => rfl, fun _ => rfl, fun _ => rfl, fun _ _ => rfl, fun _ _ => rfl⟩

/-! ## What does not depend on the number -/

namespace Roster

theorem contentCore_unsourced (r : Roster) (id : SeriesId) :
    (r.recast Series.unsourced).contentCore id = r.contentCore id := by
  induction id using Nat.strongRecOn with
  | ind id ih =>
    rw [contentCore_eq, contentCore_eq, view?_recast Series.recasts_unsourced,
      bareText_recast Series.recasts_unsourced]
    cases r.view? id with
    | none => rfl
    | some s =>
      have hsegment : s.unsourced.segment = s.segment := rfl
      have hstyled : s.unsourced.styled = s.styled := rfl
      have hparent : s.unsourced.parent = s.parent := rfl
      have hkey : s.unsourced.key = s.key := rfl
      simp only [Option.map_some, hsegment, hstyled, hparent, hkey]
      cases s.segment.style with
      | none => rfl
      | some style =>
        cases s.parent with
        | none => rfl
        | some p =>
          dsimp only
          by_cases hlt : p < id
          · rw [if_pos hlt, if_pos hlt, ih p hlt]
          · rw [if_neg hlt, if_neg hlt]

theorem content_unsourced (r : Roster) (id : SeriesId) :
    (r.recast Series.unsourced).content id = r.content id := by
  rw [content, content, get?_recast, contentCore_unsourced]
  cases r.get? id <;> rfl

theorem drawItem_unsourced (r : Roster) (styled : Bool) (id : SeriesId) (container : ContainerState)
    (attrs : Attrs) :
    (r.recast Series.unsourced).drawItem styled id container attrs = r.drawItem styled id container attrs := by
  have htext : (r.recast Series.unsourced).drawText id container attrs = r.drawText id container attrs := by
    rw [drawText, drawText, text_recast Series.recasts_unsourced]
  rw [drawItem, drawItem, get?_recast, htext]
  cases r.get? id with
  | none => rfl
  | some s =>
    have hdrawn : (r.recast Series.unsourced).drawStyled id s.unsourced container attrs =
        r.drawStyled id s container attrs := by
      rw [drawStyled, drawStyled, content_unsourced]
      rfl
    exact congrArg (ite ((styled && s.styled) = true) · _) hdrawn

theorem parentIdentity_unsourced (r : Roster) (parent : Option SeriesId) (styled : Bool) :
    (r.recast Series.unsourced).parentIdentity parent styled = r.parentIdentity parent styled := by
  cases parent with
  | none => rfl
  | some p =>
    rw [parentIdentity, parentIdentity]
    simp only [get?_recast, bareText_recast Series.recasts_unsourced]
    cases r.get? p <;> rfl

end Roster

/-! ## Keys -/

/-- Keys that differ in the numbers of a source. -/
structure SeriesKey.Alike (c c' : Context) (k k' : SeriesKey) : Prop where
  source : c.SameSource c' k.place.1 k'.place.1
  depth : k.place.2 = k'.place.2
  parent : k.parent = k'.parent
  styled : k.styled = k'.styled

section Keys
variable {c c' d d' : Context}

theorem SeriesKey.Alike.mono {k k' : SeriesKey} (h : k.Alike c c' k') (hc : c.Extends d) (hc' : c'.Extends d') :
    k.Alike d d' k' := ⟨h.source.mono hc hc', h.depth, h.parent, h.styled⟩

theorem SeriesKey.Alike.eq_iff (hc : c.Distinct) (hc' : c'.Distinct) {k k' l l' : SeriesKey}
    (h : k.Alike c c' k') (h' : l.Alike c c' l') : k = l ↔ k' = l' := by
  have hsource := h.source.eq_iff hc hc' h'.source
  obtain ⟨⟨n, i⟩, parent, styled⟩ := k
  obtain ⟨⟨n', i'⟩, parent', styled'⟩ := k'
  obtain ⟨⟨m, j⟩, outer, drawn⟩ := l
  obtain ⟨⟨m', j'⟩, outer', drawn'⟩ := l'
  obtain ⟨-, rfl, rfl, rfl⟩ := h
  obtain ⟨-, rfl, rfl, rfl⟩ := h'
  simp only [SeriesKey.mk.injEq, Prod.mk.injEq]
  exact and_congr_left fun _ => and_congr_left fun _ => hsource

theorem SeriesKey.idxOf?_alike (hc : c.Distinct) (hc' : c'.Distinct) {keys keys' : List SeriesKey}
    (h : List.Forall₂ (SeriesKey.Alike c c') keys keys') {k k' : SeriesKey} (hk : k.Alike c c' k') :
    keys.idxOf? k = keys'.idxOf? k' := by
  induction h with
  | nil => rfl
  | cons hhead _ ih =>
    have hiff := hhead.eq_iff hc hc' hk
    rw [List.idxOf?_cons, List.idxOf?_cons, ih]
    simp only [beq_iff_eq, hiff]

theorem Roster.number_alike (hc : c.Distinct) (hc' : c'.Distinct) {r r' : Roster}
    (h : List.Forall₂ (SeriesKey.Alike c c') r.keys r'.keys) {k k' : SeriesKey} (hk : k.Alike c c' k') :
    (r.number k).1 = (r'.number k').1 ∧
      List.Forall₂ (SeriesKey.Alike c c') (r.number k).2.keys (r'.number k').2.keys := by
  rw [number, number, SeriesKey.idxOf?_alike hc hc' h hk]
  cases r'.keys.idxOf? k' with
  | some n => exact ⟨rfl, h⟩
  | none => exact ⟨h.length_eq, List.rel_append h (.cons hk .nil)⟩

end Keys

/-! ## Scopes -/

namespace Scope

def template? (s : Scope) (id : SeriesId) : Option Instance := (s.roster.get? id).map Series.template

theorem template?_eq (s : Scope) (id : SeriesId) :
    s.template? id = (s.roster.view? id).map Series.template := by
  rw [template?, Roster.view?]
  cases s.roster.get? id <;> rfl

/-- Scopes that are equal but for the numbers of sources, which stand for the same sources. -/
structure Alike (c c' : Context) (s t : Scope) : Prop where
  unsourced : s.recast Series.unsourced = t.recast Series.unsourced
  template (id : SeriesId) : Option.Rel (Instance.Alike c c') (s.template? id) (t.template? id)
  keys : List.Forall₂ (SeriesKey.Alike c c') s.roster.keys t.roster.keys

namespace Alike
variable {c c' d d' : Context} {s t s' t' : Scope}

theorem mono (h : Alike c c' s t) (hc : c.Extends d) (hc' : c'.Extends d') : Alike d d' s t where
  unsourced := h.unsourced
  template id := Template.relAlike_mono (h.template id) hc hc'
  keys := h.keys.imp fun _ _ hk => hk.mono hc hc'

theorem size_eq (h : Alike c c' s t) : s.roster.series.size = t.roster.series.size :=
  Roster.size_congr (roster_congr h.unsourced)

theorem find?_eq (h : Alike c c' s t) : s.find? = t.find? := by
  funext selector
  rw [← find?_recast Series.recasts_unsourced, h.unsourced, find?_recast Series.recasts_unsourced]

theorem findKind?_eq (h : Alike c c' s t) (kind : ElementKind) : s.findKind? kind = t.findKind? kind := by
  rw [← findKind?_recast Series.recasts_unsourced, h.unsourced, findKind?_recast Series.recasts_unsourced]

theorem label?_eq (h : Alike c c' s t) : s.label? = t.label? := by
  funext selector
  rw [← label?_recast Series.recasts_unsourced, h.unsourced, label?_recast Series.recasts_unsourced]

theorem text_eq (h : Alike c c' s t) (id : SeriesId) : s.roster.text id = t.roster.text id := by
  rw [← Roster.text_recast Series.recasts_unsourced, roster_congr h.unsourced,
    Roster.text_recast Series.recasts_unsourced]

theorem drawItem_eq (h : Alike c c' s t) (styled : Bool) (id : SeriesId) (container : ContainerState)
    (attrs : Attrs) :
    s.roster.drawItem styled id container attrs = t.roster.drawItem styled id container attrs := by
  rw [← Roster.drawItem_unsourced, roster_congr h.unsourced, Roster.drawItem_unsourced]

theorem parent_eq (h : Alike c c' s t) (id : SeriesId) :
    (s.roster.get? id).bind Series.parent = (t.roster.get? id).bind Series.parent := by
  rw [← parent_recast Series.recasts_unsourced, h.unsourced, parent_recast Series.recasts_unsourced]

theorem parentIdentity_eq (h : Alike c c' s t) (parent : Option SeriesId) (styled : Bool) :
    s.roster.parentIdentity parent styled = t.roster.parentIdentity parent styled := by
  rw [← Roster.parentIdentity_unsourced, roster_congr h.unsourced, Roster.parentIdentity_unsourced]

/-! ### Changes -/

theorem increment (h : Alike c c' s t) (id : SeriesId) : Alike c c' (s.increment id) (t.increment id) := by
  have htemplate : ∀ (s : Scope) (j : SeriesId), (s.increment id).template? j = s.template? j := by
    intro s j
    rw [template?_eq, template?_eq, Scope.increment, Roster.view?_increment]
    cases s.roster.view? j with
    | none => rfl
    | some v =>
      show some (ite (id = j) _ v).template = some v.template
      split <;> rfl
  refine ⟨?_, fun j => ?_, h.keys⟩
  · rw [recast_increment Series.recasts_unsourced, h.unsourced, recast_increment Series.recasts_unsourced]
  · rw [htemplate, htemplate]
    exact h.template j

/-- Taking series out of scope in the same way. -/
theorem shrinks (h : Alike c c' s t) {gone gone' : List SeriesId} (hs : Shrinks s s' gone)
    (ht : Shrinks t t' gone') (heq : s'.recast Series.unsourced = t'.recast Series.unsourced) :
    Alike c c' s' t' := by
  refine ⟨heq, fun id => ?_, ?_⟩
  · rw [template?_eq, template?_eq, hs.view, ht.view, ← template?_eq, ← template?_eq]
    exact h.template id
  · rw [hs.keys, ht.keys]
    exact h.keys

theorem closeBelow (h : Alike c c' s t) (level : HeadingLevel) :
    Alike c c' (s.closeBelow level) (t.closeBelow level) := by
  obtain ⟨gone, hs, -⟩ := shrinks_closeBelow s level
  obtain ⟨gone', ht, -⟩ := shrinks_closeBelow t level
  refine h.shrinks hs ht ?_
  rw [recast_closeBelow Series.recasts_unsourced, h.unsourced, recast_closeBelow Series.recasts_unsourced]

theorem endBelow (h : Alike c c' s t) (id : SeriesId) : Alike c c' (s.endBelow id) (t.endBelow id) := by
  obtain ⟨gone, hs, -⟩ := shrinks_endBelow s id
  obtain ⟨gone', ht, -⟩ := shrinks_endBelow t id
  refine h.shrinks hs ht ?_
  rw [recast_endBelow Series.recasts_unsourced, h.unsourced, recast_endBelow Series.recasts_unsourced]

theorem remove (h : Alike c c' s t) (id : SeriesId) : Alike c c' (s.remove id) (t.remove id) := by
  refine h.shrinks (shrinks_remove s id) (shrinks_remove t id) ?_
  rw [recast_remove, h.unsourced, recast_remove]

/-! ### New series -/

section New
variable {i j : Instance} (h : Alike c c' s t) (hi : i.Alike c c' j) (kind : ElementKind)
  (parent : Option SeriesId) (styled : Bool)
include h hi

theorem template_create (id : SeriesId) :
    Option.Rel (Instance.Alike c c')
      (((s.roster.create kind i parent styled).2.view? id).map Series.template)
      (((t.roster.create kind j parent styled).2.view? id).map Series.template) := by
  rw [Roster.view?_create, Roster.view?_create, h.size_eq]
  split
  · exact .some hi
  · rw [← template?_eq, ← template?_eq]
    exact h.template id

variable (hc : c.Distinct) (hc' : c'.Distinct)
include hc hc'

/-- New series of one parent, whose templates are alike, have one key. -/
theorem newSeries :
    (s.roster.newSeries kind i parent styled).unsourced = (t.roster.newSeries kind j parent styled).unsourced ∧
      List.Forall₂ (SeriesKey.Alike c c') (s.roster.create kind i parent styled).2.keys
        (t.roster.create kind j parent styled).2.keys := by
  have hkey : (s.roster.nextKey i parent styled).Alike c c' (t.roster.nextKey j parent styled) :=
    ⟨hi.source, hi.depth, h.parentIdentity_eq parent styled, rfl⟩
  obtain ⟨hnumber, hkeys⟩ := Roster.number_alike hc hc' h.keys hkey
  rw [Roster.keys_create, Roster.keys_create]
  refine ⟨?_, hkeys⟩
  rw [Roster.newSeries, Roster.newSeries, hnumber]
  obtain ⟨template, source, depth⟩ := i
  obtain ⟨template', source', depth'⟩ := j
  obtain ⟨rfl, -, rfl⟩ := hi
  rfl

theorem started : Alike c c' (s.started kind i parent styled) (t.started kind j parent styled) := by
  obtain ⟨hnew, hkeys⟩ := h.newSeries hi kind parent styled hc hc'
  refine ⟨recast_started Series.recasts_unsourced h.unsourced hnew, fun id => ?_, hkeys⟩
  rw [template?_eq, template?_eq]
  exact h.template_create hi kind parent styled id

theorem replaced (old : SeriesId) : Alike c c' (s.replaced old kind i styled) (t.replaced old kind j styled) := by
  have hparent := h.parent_eq old
  obtain ⟨hnew, hkeys⟩ := h.newSeries hi kind ((s.roster.get? old).bind Series.parent) styled hc hc'
  obtain ⟨gone, hs, -⟩ := shrinks_replace
    (s.create kind i ((s.roster.get? old).bind Series.parent) styled).2 old s.roster.series.size
  obtain ⟨gone', ht, -⟩ := shrinks_replace
    (t.create kind j ((t.roster.get? old).bind Series.parent) styled).2 old t.roster.series.size
  refine ⟨recast_replaced Series.recasts_unsourced h.unsourced old hnew, fun id => ?_, ?_⟩
  · rw [template?_eq, template?_eq]
    refine (hs.view id).symm ▸ (ht.view id).symm ▸ ?_
    rw [← hparent]
    exact h.template_create hi kind _ styled id
  · refine hs.keys.symm ▸ ht.keys.symm ▸ ?_
    rw [← hparent]
    exact hkeys

end New

end Alike
end Scope
end Rubric
