import Mathlib.Data.List.Find
import Rubric.Proofs.Stylesheet.Counters

/-!
# Scopes at an item of a document

* `Scope.Within s e ids` : the scope `s` at a place inside of the lists `e`, of which the series `ids` draw
  some; further out there are sections only;
* `Scope.Entered s e ids id` : the scope between the items of a list that the series `id` draws;
* `Within.enter`, `Entered.item` : a list is entered from its place, and from there an item;
* `Within.frames`, `Entered.frames` : what leaves a scope as it was.
-/

namespace Rubric

theorem Selector.matches_list (m : Selector) {kind : ElementKind} (hk : kind.isList = true)
    (numbered : Bool) :
    (m.matchesKind kind && (!m.numberedOnly || numbered)) = (m.numberedOnly && numbered) := by
  cases kind with
  | heading => cases hk
  | orderedList => cases m <;> cases numbered <;> rfl
  | unorderedList => cases m <;> cases numbered <;> rfl

namespace Scope
variable {s s' : Scope} {e : List ListPlace} {ids : List SeriesId} {id : SeriesId}

/-- Inside of some lists, the innermost open series draw them, and the others number sections. -/
structure Within (s : Scope) (e : List ListPlace) (ids : List SeriesId) : Prop where
  stack : ∃ base, s.stack = ids ++ base ∧ ∀ j ∈ base, s.roster.StyledAs false j
  nested : s.roster.Nested ids
  surrounds : s.roster.Surrounds e ids

/-- Between the items of a list that a series draws. -/
structure Entered (s : Scope) (e : List ListPlace) (ids : List SeriesId) (id : SeriesId) : Prop where
  inner : ∃ base, s.Inner (ids ++ base) id ∧ ∀ j ∈ base, s.roster.StyledAs false j
  nested : s.roster.Nested (id :: ids)
  surrounds : s.roster.Surrounds e ids

theorem within_nil : s.Within [] [] ↔ s.Unstyled := by
  constructor
  · rintro ⟨⟨base, hstack, hbase⟩, -, -⟩ id hid
    exact hbase id (by simpa [hstack] using hid)
  · exact fun h => ⟨⟨s.stack, rfl, h⟩, trivial, .nil⟩

theorem Within.bare (h : s.Within e ids) {l : ListPlace} (hl : l.1.styleClasses = []) :
    s.Within (l :: e) ids := ⟨h.stack, h.nested, .bare hl h.surrounds⟩

theorem Within.has (h : s.Within e ids) (hs : s.Sound) {j : SeriesId} (hj : j ∈ ids) :
    s.roster.Has j := by
  obtain ⟨base, hstack, -⟩ := h.stack
  exact hs.has j (hstack ▸ List.mem_append_left _ hj)

theorem Within.frames (h : s.Within e ids) (hs : s.Sound) (hf : Frames s s')
    (hg : s.roster.Grows s'.roster) : s'.Within e ids := by
  obtain ⟨base, hstack, hbase⟩ := h.stack
  exact ⟨⟨base, hf.stack.trans hstack, fun j hj => hg.styledAs (hbase j hj)⟩, h.nested.grows hg,
    h.surrounds.congr fun j hj => hf.view j (h.has hs hj)⟩

theorem Entered.has (h : s.Entered e ids id) (hs : s.Sound) {j : SeriesId} (hj : j ∈ id :: ids) :
    s.roster.Has j := by
  obtain ⟨base, hinner, -⟩ := h.inner
  refine hs.has j ?_
  rw [hinner.stack, ← List.cons_append]
  exact List.mem_append_left _ hj

theorem Entered.frames (h : s.Entered e ids id) (hs : s.Sound) (hf : Frames s s')
    (hg : s.roster.Grows s'.roster) : s'.Entered e ids id := by
  obtain ⟨base, hinner, hbase⟩ := h.inner
  exact ⟨⟨base, ⟨hf.stack.trans hinner.stack, hinner.older⟩, fun j hj => hg.styledAs (hbase j hj)⟩,
    h.nested.grows hg, h.surrounds.congr fun j hj => hf.view j (h.has hs (List.mem_cons_of_mem _ hj))⟩

theorem Entered.ne (h : s.Entered e ids id) {j : SeriesId} (hj : j ∈ ids) : j ≠ id := by
  obtain ⟨base, hinner, -⟩ := h.inner
  exact Nat.ne_of_lt (hinner.older j (List.mem_append_left _ hj))

theorem Entered.increment (h : s.Entered e ids id) : (s.increment id).Entered e ids id := by
  have hgrows := Roster.grows_increment s.roster id
  obtain ⟨base, hinner, hbase⟩ := h.inner
  exact ⟨⟨base, ⟨hinner.stack, hinner.older⟩, fun j hj => hgrows.styledAs (hbase j hj)⟩,
    h.nested.grows hgrows, h.surrounds.congr fun j hj => Roster.view?_increment_of_ne (h.ne hj)⟩

/-- The next item of a list: the list is around it, at the position that its series has counted. -/
theorem Entered.item (h : s.Entered e ids id) {v : Series} (hv : s.roster.view? id = some v)
    {attrs : Attrs} (hclasses : attrs.styleClasses = [(Css.styleName v.key).toList]) :
    (s.increment id).Within ((attrs, v.count + 1) :: e) (id :: ids) := by
  have hafter := h.increment
  obtain ⟨base, hinner, hbase⟩ := hafter.inner
  refine ⟨⟨base, hinner.stack, hbase⟩, hafter.nested, ?_⟩
  have hcount : (s.increment id).roster.view? id = some { v with count := v.count + 1 } := by
    rw [Scope.increment, Roster.view?_increment, hv]
    simp
  exact @Roster.Surrounds.drawn _ attrs { v with count := v.count + 1 } id e ids hclasses hcount
    (Nat.succ_pos _) hafter.surrounds

/-- What a selector finds inside of lists is a series of the sections, or the innermost list that shows
numbers. -/
theorem Within.find?_eq (h : s.Within e ids) {m : Selector} {p : SeriesId}
    (hp : s.find? m = some p) : s.roster.StyledAs false p ∨ ids.find? s.roster.numbers = some p := by
  obtain ⟨base, hstack, hbase⟩ := h.stack
  have hselects : ∀ j ∈ ids, s.selects m j = (m.numberedOnly && s.roster.numbers j) := by
    intro j hj
    obtain ⟨v, hv, -, hlist⟩ := h.nested.of_mem hj
    obtain ⟨t, ht, rfl⟩ := Roster.get?_of_view? hv
    rw [selects, ht, Option.any_some, Roster.numbers, hv, Option.any_some]
    exact m.matches_list hlist t.isNumbered
  rw [find?, hstack, List.find?_append, List.find?_congr hselects] at hp
  cases hfound : ids.find? fun j => m.numberedOnly && s.roster.numbers j with
  | none =>
    rw [hfound, Option.none_or] at hp
    exact Or.inl (hbase p (List.mem_of_find?_eq_some hp))
  | some q =>
    rw [hfound, Option.some_or] at hp
    cases hp
    cases hm : m.numberedOnly with
    | true => exact Or.inr (by simpa [hm] using hfound)
    | false =>
      have := List.find?_some hfound
      simp [hm] at this

/-- A list that starts. -/
theorem Within.enter (h : s.Within e ids) (hs : s.Sound) {kind : ElementKind}
    (hk : kind.isList = true) (template : Template.Instance) :
    (s.started kind template (template.template.segment.parent.bind s.find?) true).Entered e ids
      s.roster.series.size := by
  have hgrows := s.roster.grows_create kind template (template.template.segment.parent.bind s.find?) true
  obtain ⟨base, hstack, hbase⟩ := h.stack
  refine ⟨⟨base, ?_, fun j hj => hgrows.styledAs (hbase j hj)⟩, ⟨⟨_, Roster.view?_create_self .., rfl, hk,
    fun p hp => ?_⟩, h.nested.grows hgrows⟩, h.surrounds.congr fun j hj => ?_⟩
  · rw [← hstack]
    exact hs.inner_started kind template _ true
  · obtain ⟨m, -, hm⟩ := Option.bind_eq_some_iff.1 hp
    refine (h.find?_eq hm).imp hgrows.styledAs fun hfind => ?_
    exact (h.nested.find?_grows hgrows).trans hfind
  · exact view?_started_of_has (h.has hs hj) ..

end Scope
end Rubric
