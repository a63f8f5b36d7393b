import Rubric.Proofs.Outline.Sections
import Rubric.Proofs.Scope.Rooted

/-!
# Lists and sections in scope

* `Scope.lists` : the series in scope that number list items, innermost first;
* `Scope.Around s base top` : these are `top`, if it is in scope, and some of the older ones in `base`;
* `Around.replaced` : a list series that takes the place of `top` stands in front of them;
* `Scope.Stacked` : the sections in scope get deeper from the outside to the inside;
* `Stacked.find?_heading` : then the deepest one is the innermost, and the only one of its level;
* `find?_list_iff`, `find?_any_iff` : when a reference finds a series.
-/

namespace Rubric.Scope

variable {s s' : Scope}

def lists (s : Scope) : List SeriesId := s.stack.filter fun id => (s.level? id).isNone

/-- The sections in scope get deeper from the outside to the inside. -/
def Stacked (s : Scope) : Prop := s.sections.Pairwise fun a b => b.2.number < a.2.number

theorem mem_lists {id : SeriesId} : id ∈ s.lists ↔ id ∈ s.stack ∧ s.level? id = none := by
  rw [lists, List.mem_filter, Option.isNone_iff_eq_none]

theorem mem_sections_of_findKind? {l : HeadingLevel} {id : SeriesId}
    (h : s.findKind? (.heading l) = some id) : (id, l) ∈ s.sections :=
  mem_of_sectionOf? ((findKind?_heading s l).symm.trans h)

theorem map_snd_sections (s : Scope) : s.sections.map Prod.snd = s.stack.filterMap s.level? := by
  rw [sections, List.map_filterMap]
  refine List.filterMap_congr fun id _ => ?_
  rw [Option.map_map]
  exact Option.map_id'

theorem stacked_iff : s.Stacked ↔ (s.stack.filterMap s.level?).Pairwise fun a b => b.number < a.number := by
  rw [← map_snd_sections, List.pairwise_map]
  rfl

/-! ## Changes -/

theorem Shrinks.lists {gone : List SeriesId} (h : Shrinks s s' gone) : s'.lists.Sublist s.lists := by
  have hlevel : ∀ id, s'.level? id = s.level? id := fun id => level?_congr (h.view id)
  simp only [Scope.lists, hlevel, h.stack]
  exact List.filter_sublist.filter _

theorem Stacked.shrinks {gone : List SeriesId} (h : s.Stacked) (hs : Shrinks s s' gone) : s'.Stacked := by
  rw [Stacked, hs.sections_eq]
  exact h.filter _

theorem lists_increment (s : Scope) (id : SeriesId) : (s.increment id).lists = s.lists := by
  simp only [lists, level?_increment]
  rfl

theorem Stacked.increment (h : s.Stacked) (id : SeriesId) : (s.increment id).Stacked := by
  rwa [Stacked, sections_increment]

section New
variable (kind : ElementKind) (template : Template.Instance) (parent : Option SeriesId) (styled : Bool)

theorem Sound.lists_started (h : s.Sound) :
    (s.started kind template parent styled).lists =
      if kind.level?.isNone then s.roster.series.size :: s.lists else s.lists := by
  have hrest : s.stack.filter (fun id => ((s.started kind template parent styled).level? id).isNone) =
      s.lists := by
    refine List.filter_congr fun id hid => ?_
    rw [level?_started_of_has (h.has id hid)]
  rw [lists, stack_started, List.filter_cons, level?_started_self, hrest]

/-- A list series leaves the sections as they are, and so does a section that is deeper than all others. -/
theorem Stacked.started (h : s.Stacked) (hs : s.Sound)
    (hdeep : ∀ l, kind.level? = some l → ∀ e ∈ s.sections, e.2.number < l.number) :
    (s.started kind template parent styled).Stacked := by
  rw [Stacked, hs.sections_start]
  cases hk : kind.level? with
  | none => exact h
  | some l => exact List.pairwise_cons.2 ⟨hdeep l hk, h⟩

variable {old : SeriesId}

theorem Sound.level?_swap (h : s.Sound) (hold : s.level? old = kind.level?) {id : SeriesId}
    (hid : id ∈ s.stack) :
    (s.swap old kind template styled).level? (if id = old then s.roster.series.size else id) =
      s.level? id := by
  have hnew := level?_started_self s kind template (s.roster.parent? old) styled
  by_cases hid' : id = old
  · rw [if_pos hid', hid', hold]
    exact hnew
  · rw [if_neg hid']
    exact level?_started_of_has (h.has id hid) kind template (s.roster.parent? old) styled

theorem level?_replaced_self (s : Scope) :
    (s.replaced old kind template styled).level? s.roster.series.size = kind.level? := by
  obtain ⟨gone, hpr, -⟩ := prunes_replaced old kind template styled s
  exact (level?_congr (hpr.view _)).trans (level?_started_self s kind template (s.roster.parent? old) styled)

theorem stack_swap_of_mem (hmem : old ∈ s.stack) :
    (s.swap old kind template styled).stack =
      s.stack.map fun id => if id = old then s.roster.series.size else id := by
  show swapped s.stack old s.roster.series.size = _
  rw [swapped, if_pos (by simpa using hmem)]

theorem stack_swap_of_not_mem (hmem : old ∉ s.stack) :
    (s.swap old kind template styled).stack = s.roster.series.size :: s.stack := by
  show swapped s.stack old s.roster.series.size = _
  rw [swapped, if_neg (by simpa using hmem)]

/-- The levels of the sections are the same if a section takes the place of one of its level, or a list
series that of another one. -/
theorem Sound.depths_swap (h : s.Sound) (hold : s.level? old = kind.level?)
    (hmem : old ∈ s.stack ∨ kind.level? = none) :
    (s.swap old kind template styled).stack.filterMap (s.swap old kind template styled).level? =
      s.stack.filterMap s.level? := by
  by_cases hin : old ∈ s.stack
  · rw [stack_swap_of_mem kind template styled hin, List.filterMap_map]
    exact List.filterMap_congr fun id hid => h.level?_swap kind template styled hold hid
  · have hnew : (s.swap old kind template styled).level? s.roster.series.size = none :=
      (level?_started_self s kind template (s.roster.parent? old) styled).trans (hmem.resolve_left hin)
    rw [stack_swap_of_not_mem kind template styled hin, List.filterMap_cons, hnew]
    refine List.filterMap_congr fun id hid => ?_
    have hne : id ≠ old := fun heq => hin (heq ▸ hid)
    have hlevel := h.level?_swap kind template styled hold hid
    rwa [if_neg hne] at hlevel

theorem Stacked.replaced (h : s.Stacked) (hs : s.Sound) (hold : s.level? old = kind.level?)
    (hmem : old ∈ s.stack ∨ kind.level? = none) : (s.replaced old kind template styled).Stacked := by
  obtain ⟨gone, hpr, -⟩ := prunes_replaced old kind template styled s
  refine Stacked.shrinks ?_ hpr.toShrinks
  rw [stacked_iff, hs.depths_swap kind template styled hold hmem]
  exact stacked_iff.1 h

theorem Sound.lists_swap (h : s.Sound) (hold : s.level? old = kind.level?) (hmem : old ∈ s.stack) :
    (s.swap old kind template styled).lists =
      s.lists.map fun id => if id = old then s.roster.series.size else id := by
  rw [lists, stack_swap_of_mem kind template styled hmem, List.filter_map, lists]
  refine congrArg (List.map _) (List.filter_congr fun id hid => ?_)
  rw [Function.comp_apply, h.level?_swap kind template styled hold hid]

theorem Sound.lists_replaced {l : HeadingLevel} (h : s.Sound) (hkind : kind.level? = some l)
    (hold : s.level? old = some l) (hmem : old ∈ s.stack) :
    (s.replaced old kind template styled).lists.Sublist s.lists := by
  obtain ⟨gone, hpr, -⟩ := prunes_replaced old kind template styled s
  have hsame : s.lists.map (fun id => if id = old then s.roster.series.size else id) = s.lists := by
    refine (List.map_congr_left fun id hid => ?_).trans (List.map_id _)
    refine if_neg fun heq => ?_
    rw [heq, mem_lists, hold] at hid
    cases hid.2
  rw [← hsame, ← h.lists_swap kind template styled (hold.trans hkind.symm) hmem]
  exact hpr.toShrinks.lists

end New

/-- The sections behind a replacement are of levels that have been there. -/
theorem Sound.exists_section_of_replaced {kind : ElementKind} {template : Template.Instance} {styled : Bool}
    {old : SeriesId} (h : s.Sound) (hold : s.level? old = kind.level?)
    (hmem : old ∈ s.stack ∨ kind.level? = none) {e : SeriesId × HeadingLevel}
    (he : e ∈ (s.replaced old kind template styled).sections) : ∃ id, (id, e.2) ∈ s.sections := by
  obtain ⟨gone, hpr, -⟩ := prunes_replaced old kind template styled s
  rw [hpr.toShrinks.sections_eq] at he
  have hlevel : e.2 ∈ (s.swap old kind template styled).sections.map Prod.snd :=
    List.mem_map_of_mem (List.mem_of_mem_filter he)
  rw [map_snd_sections, h.depths_swap kind template styled hold hmem, ← map_snd_sections] at hlevel
  obtain ⟨⟨id, l⟩, hid, rfl⟩ := List.mem_map.1 hlevel
  exact ⟨id, hid⟩

theorem le_of_mem_closeBelow {level : HeadingLevel} {e : SeriesId × HeadingLevel}
    (he : e ∈ (s.closeBelow level).sections) : e.2.number ≤ level.number := by
  obtain ⟨gone, hsh, hall, -⟩ := shrinks_closeBelow s level
  rw [hsh.sections_eq] at he
  obtain ⟨hmem, hnot⟩ := List.mem_filter.1 he
  obtain ⟨hid, hlevel⟩ := mem_sections.1 hmem
  by_contra hlt
  have hgone := hall e.1 hid (by rw [isDeeper_eq, hlevel]; simpa using hlt)
  simp [hgone] at hnot

theorem lt_of_mem_closeBelow {level : HeadingLevel}
    (hnone : (s.closeBelow level).findKind? (.heading level) = none) {e : SeriesId × HeadingLevel}
    (he : e ∈ (s.closeBelow level).sections) : e.2.number < level.number := by
  refine Nat.lt_of_le_of_ne (le_of_mem_closeBelow he) fun heq => ?_
  rw [findKind?_heading, sectionOf?_eq_none] at hnone
  have hlevel : e.2 = level := HeadingLevel.ext heq
  exact hnone e.1 (hlevel ▸ he)

/-! ## The lists around a list -/

/-- The list series in scope are that of a list, if it is in scope, and some older ones around it. -/
structure Around (s : Scope) (base : List SeriesId) (top : SeriesId) : Prop where
  lists : s.lists.Sublist (top :: base)
  older : ∀ id ∈ base, id < top

theorem Around.of_sublist {base : List SeriesId} {top : SeriesId} (h : s.Around base top)
    (hs : s'.lists.Sublist s.lists) : s'.Around base top := ⟨hs.trans h.lists, h.older⟩

theorem Around.not_mem {base : List SeriesId} {top : SeriesId} (h : s.Around base top) : top ∉ base :=
  fun hmem => Nat.lt_irrefl _ (h.older top hmem)

/-- The list series in scope are `top` and older ones, just if `top` is in scope. -/
theorem Around.lists_eq {base : List SeriesId} {top : SeriesId} (h : s.Around base top) :
    top ∉ s.lists ∧ s.lists.Sublist base ∨ ∃ rest, s.lists = top :: rest ∧ rest.Sublist base := by
  rcases List.sublist_cons_iff.1 h.lists with hbase | ⟨rest, heq, hrest⟩
  · exact Or.inl ⟨fun hmem => h.not_mem (hbase.subset hmem), hbase⟩
  · exact Or.inr ⟨rest, heq, hrest⟩

/-- A list series takes the place of that of a list, also if that is not in scope any more. -/
theorem Around.replaced {base : List SeriesId} {old : SeriesId} (h : s.Around base old) (hs : s.Sound)
    (hhas : s.roster.Has old) (hold : s.level? old = none) {kind : ElementKind}
    (hkind : kind.level? = none) (template : Template.Instance) (styled : Bool) :
    (s.replaced old kind template styled).Around base s.roster.series.size := by
  obtain ⟨gone, hpr, -⟩ := prunes_replaced old kind template styled s
  refine ⟨hpr.toShrinks.lists.trans ?_, fun id hid => Nat.lt_trans (h.older id hid) hhas⟩
  rcases h.lists_eq with ⟨hnot, hbase⟩ | ⟨rest, heq, hrest⟩
  · have hmem : old ∉ s.stack := fun hmem => hnot (mem_lists.2 ⟨hmem, hold⟩)
    have hnew : (s.swap old kind template styled).level? s.roster.series.size = none :=
      (level?_started_self s kind template (s.roster.parent? old) styled).trans hkind
    have hsame : s.stack.filter (fun id => ((s.swap old kind template styled).level? id).isNone) =
        s.lists := by
      refine List.filter_congr fun id hid => ?_
      have hne : id ≠ old := fun heq => hmem (heq ▸ hid)
      have hlevel := hs.level?_swap kind template styled (hold.trans hkind.symm) hid
      rw [if_neg hne] at hlevel
      rw [hlevel]
    rw [Scope.lists, stack_swap_of_not_mem kind template styled hmem, List.filter_cons, hnew, hsame]
    exact hbase.cons_cons _
  · have hin : old ∈ s.lists := by
      rw [heq]
      exact List.mem_cons_self ..
    have hmem := (mem_lists.1 hin).1
    have hsame : rest.map (fun id => if id = old then s.roster.series.size else id) = rest := by
      refine (List.map_congr_left fun id hid => ?_).trans (List.map_id _)
      refine if_neg ?_
      rintro rfl
      exact h.not_mem (hrest.subset hid)
    rw [hs.lists_swap kind template styled (hold.trans hkind.symm) hmem, heq, List.map_cons, if_pos rfl,
      hsame]
    exact hrest.cons_cons _

theorem Sound.around_started (h : s.Sound) {kind : ElementKind} (hkind : kind.level? = none)
    (template : Template.Instance) (parent : Option SeriesId) (styled : Bool) :
    (s.started kind template parent styled).Around s.lists s.roster.series.size := by
  refine ⟨?_, fun id hid => h.has id (mem_lists.1 hid).1⟩
  rw [h.lists_started, hkind]
  exact List.Sublist.refl _

/-- At the end of a list there are no further lists in scope than around it. -/
theorem Around.remove {base : List SeriesId} {top : SeriesId} (h : s.Around base top) :
    (s.remove top).lists.Sublist base := by
  rcases (h.of_sublist (shrinks_remove s top).lists).lists_eq with ⟨-, hbase⟩ | ⟨rest, heq, -⟩
  · exact hbase
  · have hin : top ∈ (s.remove top).lists := by
      rw [heq]
      exact List.mem_cons_self ..
    exact absurd rfl (mem_remove.1 (mem_lists.1 hin).1).2

/-! ## What a reference finds -/

theorem selects_list (s : Scope) (id : SeriesId) :
    s.selects .list id = ((s.level? id).isNone && s.selects .any id) := by
  rw [selects, selects, level?, Roster.view?]
  cases s.roster.get? id with
  | none => rfl
  | some series =>
    cases hk : series.kind <;>
      simp [Selector.matchesKind, Selector.numberedOnly, ElementKind.level?, ElementKind.isList,
        Series.unlinked, hk]

theorem find?_list (s : Scope) : s.find? .list = s.lists.find? (s.selects .any) := by
  rw [find?, lists, List.find?_filter]
  congr 1
  funext id
  rw [selects_list, Bool.decide_and, Bool.decide_eq_true, Bool.decide_eq_true]

/-- The innermost list is found just if it is in scope. -/
theorem Around.find?_list_iff {base : List SeriesId} {top : SeriesId} (h : s.Around base top)
    (hlevel : s.level? top = none) (hnum : s.selects .any top) :
    s.find? .list = some top ↔ top ∈ s.stack := by
  refine ⟨find?_mem, fun hmem => ?_⟩
  rcases h.lists_eq with ⟨hnot, -⟩ | ⟨rest, heq, -⟩
  · exact absurd (mem_lists.2 ⟨hmem, hlevel⟩) hnot
  · rw [find?_list, heq, List.find?_cons_of_pos hnum]

/-- The deepest section in scope is the innermost, and the only one of its level. -/
theorem Stacked.find?_heading {id : SeriesId} {l : HeadingLevel} (h : s.Stacked) (hid : (id, l) ∈ s.sections)
    (hdeep : ∀ e ∈ s.sections, e.2.number ≤ l.number) :
    s.find? .heading = some id ∧ s.find? (.level l) = some id := by
  refine ⟨?_, (find?_level s l).trans (sectionOf?_of_mem h hid)⟩
  rw [Scope.find?_heading]
  rw [Stacked] at h
  generalize s.sections = sections at h hid hdeep
  cases sections with
  | nil => cases hid
  | cons e rest =>
    rcases List.mem_cons.1 hid with rfl | hrest
    · rfl
    · have hlt := (List.pairwise_cons.1 h).1 _ hrest
      exact absurd (hdeep e (List.mem_cons_self ..)) (Nat.not_le.2 hlt)

end Rubric.Scope
