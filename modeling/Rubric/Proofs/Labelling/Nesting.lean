import Rubric.Proofs.Labelling.Turns
import Rubric.Proofs.Scope.Kinds

/-!
# The series in scope follow the document

* `Turn.stacked` : every event leaves the sections in scope getting deeper inwards;
* `Turn.find?_heading` : behind a heading with a label its series is the innermost section;
* `walk_lists` : a walk over a node leaves no further lists in scope;
* `Event.Nested`, `nested_moments` : the lists in scope are the one that the walk is in and those around it;
* `Event.Clear`, `clear_moments` : where no list has a heading in it, the list that the walk is in is
  innermost, and a heading is outside of all lists.
-/

namespace Rubric

/-! ## Events -/

namespace Walk.Turn
open Scope
variable {s s' : Scope} {e : Event} {own : Option SeriesId}

/-- Every event leaves the sections in scope getting deeper inwards. -/
theorem stacked (h : Turn s e own s') (hfits : e.Fits s.roster) (hs : s.Sound) (hst : s.Stacked) :
    s'.Stacked := by
  have hclosed : ∀ level, (s.closeBelow level).Sound ∧ (s.closeBelow level).Stacked := by
    intro level
    obtain ⟨gone, hsh, -⟩ := shrinks_closeBelow s level
    exact ⟨hs.shrinks hsh, hst.shrinks hsh⟩
  cases h with
  | close level => exact (hclosed level).2
  | count => exact (hclosed _).2.increment _
  | restart template hfind =>
    obtain ⟨hmem, hlevel⟩ := mem_sections.1 (mem_sections_of_findKind? hfind)
    exact ((hclosed _).2.replaced _ template false (hclosed _).1 hlevel (Or.inl hmem)).increment _
  | @start level tag attrs template hfind =>
    refine ((hclosed level).2.started _ _ _ _ (hclosed level).1 fun l hl e he => ?_).increment _
    cases hl
    exact lt_of_mem_closeBelow hfind he
  | bareList | element | skip => exact hst
  | @list kind tag attrs template styled =>
    refine hst.started _ _ _ _ hs fun l hl => ?_
    rw [ElementKind.level?_of_isList hfits.2] at hl
    cases hl
  | countItem => exact hst.increment _
  | restartItem template styled =>
    have hkind := ElementKind.level?_of_isList hfits.1
    exact (hst.replaced _ template styled hs (hfits.2.level?.trans hkind.symm) (Or.inr hkind)).increment _
  | leaveItem l =>
    obtain ⟨gone, hsh, -⟩ := shrinks_endBelow s l.series
    exact hst.shrinks hsh
  | leaveList l => exact hst.shrinks (shrinks_remove s l.series)

/-- The series of a heading with a label is the innermost section behind it. -/
theorem find?_heading {level : HeadingLevel} {tag : String} {attrs : Attrs} {id : SeriesId}
    (h : Turn s (.heading level tag attrs) (some id) s')
    (hfits : (Event.heading level tag attrs).Fits s.roster) (hs : s.Sound) (hst : s.Stacked) :
    s'.find? .heading = some id ∧ s'.find? (.level level) = some id := by
  have hstacked := h.stacked hfits hs hst
  obtain ⟨gone, hsh, -⟩ := shrinks_closeBelow s level
  have hsound := hs.shrinks hsh
  suffices hown : (id, level) ∈ s'.sections ∧ ∀ e ∈ s'.sections, e.2.number ≤ level.number from
    hstacked.find?_heading hown.1 hown.2
  cases h with
  | count hfind =>
    rw [sections_increment]
    exact ⟨mem_sections_of_findKind? hfind, fun e he => le_of_mem_closeBelow he⟩
  | restart template hfind =>
    obtain ⟨hmem, hlevel⟩ := mem_sections.1 (mem_sections_of_findKind? hfind)
    rw [sections_increment]
    refine ⟨mem_sections.2 ⟨hsound.mem_replaced _ _ _ (hsound.has _ hmem), ?_⟩, fun e he => ?_⟩
    · exact level?_replaced_self ..
    · obtain ⟨j, hj⟩ := hsound.exists_section_of_replaced hlevel (Or.inl hmem) he
      exact le_of_mem_closeBelow (e := (j, e.2)) hj
  | start template hfind =>
    rw [sections_increment, hsound.sections_start]
    refine ⟨List.mem_cons_self .., fun e he => ?_⟩
    rcases List.mem_cons.1 he with rfl | he
    · exact Nat.le_refl _
    · exact le_of_mem_closeBelow he

theorem lists_heading {level : HeadingLevel} {tag : String} {attrs : Attrs}
    (h : Turn s (.heading level tag attrs) own s') (hs : s.Sound) : s'.lists.Sublist s.lists := by
  obtain ⟨gone, hsh, -⟩ := shrinks_closeBelow s level
  have hsound := hs.shrinks hsh
  refine List.Sublist.trans ?_ hsh.lists
  cases h with
  | close => exact List.Sublist.refl _
  | count =>
    rw [lists_increment]
  | restart template hfind =>
    obtain ⟨hmem, hlevel⟩ := mem_sections.1 (mem_sections_of_findKind? hfind)
    rw [lists_increment]
    exact hsound.lists_replaced _ template false rfl hlevel hmem
  | start template hfind =>
    rw [lists_increment, hsound.lists_started]
    exact List.Sublist.refl _

/-- An item leaves the series of its list, or the one that it has put in its place, in front of the lists
around it. -/
theorem around_item {kind : ElementKind} {l : ListState} {attrs : Attrs} {base : List SeriesId}
    (h : Turn s (.item kind l attrs) own s') (hfits : kind.isList ∧ s.roster.Lists l.series)
    (hs : s.Sound) (ha : s.Around base l.series) : s'.Around base (own.getD l.series) := by
  cases h with
  | skip => exact ha
  | countItem => exact ha.of_sublist (by rw [lists_increment])
  | restartItem template styled =>
    obtain ⟨v, hv, -⟩ := hfits.2
    have hreplaced := ha.replaced hs (Roster.has_of_view? hv) hfits.2.level?
      (ElementKind.level?_of_isList hfits.1) template styled
    exact hreplaced.of_sublist (by rw [lists_increment])

end Walk.Turn

namespace Walk
open Scope
variable {d : Defaults}

/-- The series of a list behind an item is the one in which the item is numbered. -/
theorem series_enterItem (kind : ElementKind) (l : ListState) (attrs : Attrs) (s : State) :
    (enterItem d kind l "li" attrs s).2.series = (itemLabelled? d kind l attrs s).getD l.series := by
  rw [itemLabelled?]
  cases hsup : (takeBoth "li" attrs).suppressed with
  | true => rw [enterItem_unlabelled hsup, if_pos rfl, Option.getD_none]
  | false =>
    rw [if_neg (by simp)]
    rcases hread : (s.warn (takeBoth "li" attrs).warnings).readDirective "li" (takeBoth "li" attrs).source
      with ⟨e | template, s'⟩
    · rw [enterItem_failed hsup hread, Option.getD_none]
    · rw [Option.getD_some]

/-- The series in which an item is numbered counts the items behind it. -/
theorem series_of_labelled {kind : ElementKind} {l : ListState} {attrs : Attrs} {s : State} {own : SeriesId}
    (h : itemLabelled? d kind l attrs s = some own) : (enterItem d kind l "li" attrs s).2.series = own := by
  rw [series_enterItem, h, Option.getD_some]

theorem around_enterItem {kind : ElementKind} {l : ListState} {attrs : Attrs} {s : State}
    {base : List SeriesId} (hlist : kind.isList) (hl : s.scope.roster.Lists l.series) (hs : s.scope.Sound)
    (ha : s.scope.Around base l.series) :
    (enterItem d kind l "li" attrs s).1.state.scope.Around base
      (enterItem d kind l "li" attrs s).2.series := by
  rw [series_enterItem]
  exact (turn_item kind l attrs s).around_item ⟨hlist, hl⟩ hs ha

theorem around_enterList {kind : ElementKind} {tag : String} {attrs attrs' : Attrs} {l : ListState}
    {s s' : State} (hlist : kind.isList) (he : enterList d kind tag attrs s = (attrs', some l, s'))
    (hs : s.scope.Sound) : s'.scope.Around s.scope.lists l.series := by
  obtain ⟨rfl, template, hscope⟩ := scope_enterList_some he
  rw [hscope]
  exact hs.around_started (ElementKind.level?_of_isList hlist) template _ d.styled

theorem around_leaveItem {l : ListState} {s : State} {base : List SeriesId}
    (ha : s.scope.Around base l.series) : (leaveItem l s).scope.Around base l.series := by
  rw [leaveItem]
  split
  · exact ha
  · obtain ⟨gone, hsh, -⟩ := shrinks_endBelow s.scope l.series
    exact ha.of_sublist hsh.lists

end Walk

/-! ## Lists -/

namespace Draft
open Scope Walk State
variable (d : Defaults)

/-- Each part of a walk leaves no further lists in scope. The children of a list leave its series in front of
the lists around it. -/
theorem lists_cases : WalkCases d
    (fun n s => s.scope.Sound → (walk d n s).2.failure = none →
      (walk d n s).2.scope.lists.Sublist s.scope.lists)
    (fun ns s => s.scope.Sound → (walkAll d ns s).2.failure = none →
      (walkAll d ns s).2.scope.lists.Sublist s.scope.lists)
    fun kind ns l s => kind.isList → s.scope.Sound → s.scope.roster.Lists l.series →
      (walkItems d kind ns l s).2.2.failure = none → ∀ base, s.scope.Around base l.series →
      (walkItems d kind ns l s).2.2.scope.Around base (walkItems d kind ns l s).2.1.series where
  stopped n s h _ _ := by rw [walk_stopped h]
  leaf n s _ hn _ _ := by rw [walk_leaf hn]
  heading level tag attrs label children s h hk hs _ := by
    rw [walk_heading h hk]
    exact (turn_heading level tag attrs s).lists_heading hs
  other tag attrs label children s h hk hchildren hs hend := by
    rw [walk_other h hk] at hend ⊢
    have hall := hchildren ((enterElement_steps d tag attrs s).sound hs) hend
    rwa [scope_enterElement] at hall
  bareList kind tag attrs attrs' label children s s' h hk hlist he hchildren hs hend := by
    have henter := steps_of_enterList he
    rw [walk_bareList h hk hlist he] at hend ⊢
    have hall := hchildren (henter.sound hs) hend
    rwa [scope_enterList_none he] at hall
  list kind tag attrs attrs' label children l s s' h hk hlist he hchildren hs hend := by
    have henter := steps_of_enterList he
    rw [walk_list h hk hlist he] at hend ⊢
    have hend' := (failure_leaveList _ _).symm.trans hend
    rw [leaveList_of_running hend']
    exact (hchildren hlist (henter.sound hs) (lists_enterList hlist he) hend' _
      (around_enterList hlist he hs)).remove
  nil s _ _ := by rw [walkAll_nil]
  cons n rest s hn hrest hs hend := by
    rw [walkAll_cons] at hend ⊢
    exact (hrest ((walk_steps d n s).sound hs) hend).trans (hn hs (running_of_walkAll d hend))
  itemsStopped kind ns l s h _ _ _ _ base ha := by
    rw [walkItems_stopped h]
    exact ha
  itemsNil kind l s _ _ _ _ _ base ha := by
    rw [walkItems_nil]
    exact ha
  itemsLeaf kind n rest l s _ hn hrest hlist hs hl hend base ha := by
    rw [walkItems_leaf hn] at hend ⊢
    exact hrest hlist hs hl hend base ha
  item kind attrs label content rest l s h hcontent hrest hlist hs hl hend base ha := by
    rw [walkItems_item h] at hend ⊢
    dsimp only at hend ⊢
    have hafter := (failure_leaveItem _ _).symm.trans (running_of_walkItems d hend)
    have henter := enterItem_steps d kind l "li" attrs s
    have hinside := (around_enterItem hlist hl hs ha).of_sublist (hcontent (henter.sound hs) hafter)
    have hstill := (walkAll_steps d content _).grows.lists (lists_enterItem (d := d) hlist "li" attrs hl)
    have hleaving := leaveItem_steps d (enterItem d kind l "li" attrs s).2
      (walkAll d content (enterItem d kind l "li" attrs s).1.state).2
    have hsteps := (henter.trans (walkAll_steps d content _)).trans hleaving
    exact hrest hlist (hsteps.sound hs) (hleaving.grows.lists hstill) hend base (around_leaveItem hinside)
  itemsOther kind tag attrs label content rest l s h hli hn hrest hlist hs hl hend base ha := by
    rw [walkItems_other h hli] at hend ⊢
    have hsteps := walk_steps d (element tag attrs label content) s
    exact hrest hlist (hsteps.sound hs) (hsteps.grows.lists hl) hend base
      (ha.of_sublist (hn hs (running_of_walkItems d hend)))

/-- A walk over a node leaves no further lists in scope. -/
theorem walk_lists (n : Draft) {s : State} (hs : s.scope.Sound) (hend : (walk d n s).2.failure = none) :
    (walk d n s).2.scope.lists.Sublist s.scope.lists := (lists_cases d).walk n s hs hend

theorem walkAll_lists (ns : List Draft) {s : State} (hs : s.scope.Sound)
    (hend : (walkAll d ns s).2.failure = none) :
    (walkAll d ns s).2.scope.lists.Sublist s.scope.lists := (lists_cases d).walkAll ns s hs hend

end Draft

/-- The lists in scope are that of the event and older ones around it. -/
def Walk.Event.Nested (s : Scope) : Walk.Event → Prop
  | item _ l _ | leaveItem l | leaveList l => ∃ base, s.Around base l.series
  | heading .. | list .. | element .. => True

namespace Draft
open Scope Walk State
variable (d : Defaults)

/-- Each part of a walk comes to the items and the ends of lists with the lists in scope nested. -/
theorem nested_cases : WalkCases d
    (fun n s => s.scope.Sound → ∀ m ∈ moments d n s, m.event.Nested m.before.scope)
    (fun ns s => s.scope.Sound → ∀ m ∈ momentsAll d ns s, m.event.Nested m.before.scope)
    fun kind ns l s => kind.isList → s.scope.Sound → s.scope.roster.Lists l.series →
      ∀ base, s.scope.Around base l.series →
      ∀ m ∈ momentsItems d kind ns l s, m.event.Nested m.before.scope where
  stopped n s h _ := by simp [moments_stopped h]
  leaf n s _ hn _ := by simp [moments_leaf hn]
  heading level tag attrs label children s h hk _ := by
    rw [moments_heading h hk]
    exact List.forall_mem_singleton.2 trivial
  other tag attrs label children s h hk hchildren hs := by
    rw [moments_other h hk]
    exact List.forall_mem_cons.2 ⟨trivial, hchildren ((enterElement_steps d tag attrs s).sound hs)⟩
  bareList kind tag attrs attrs' label children s s' h hk hlist he hchildren hs := by
    have henter := steps_of_enterList he
    rw [moments_bareList h hk hlist he]
    exact List.forall_mem_cons.2 ⟨trivial, hchildren (henter.sound hs)⟩
  list kind tag attrs attrs' label children l s s' h hk hlist he hchildren hs := by
    have henter := steps_of_enterList he
    rw [moments_list h hk hlist he]
    exact List.forall_mem_cons.2 ⟨trivial, hchildren hlist (henter.sound hs) (lists_enterList hlist he) _
      (around_enterList hlist he hs)⟩
  nil s _ := by simp [momentsAll]
  cons n rest s hn hrest hs := by
    rw [momentsAll]
    exact List.forall_mem_append.2 ⟨hn hs, hrest ((walk_steps d n s).sound hs)⟩
  itemsStopped kind ns l s h _ _ _ _ _ := by simp [momentsItems_stopped h]
  itemsNil kind l s h _ _ _ base ha := by
    rw [momentsItems, comesTo_running h]
    exact List.forall_mem_singleton.2 ⟨base, ha⟩
  itemsLeaf kind n rest l s _ hn hrest hlist hs hl base ha := by
    rw [momentsItems_leaf hn]
    exact hrest hlist hs hl base ha
  item kind attrs label content rest l s h hcontent hrest hlist hs hl base ha := by
    rw [momentsItems_item h]
    have hitem := (enterItem_steps d kind l "li" attrs s).sound hs
    have hsteps := walkAll_steps d content (enterItem d kind l "li" attrs s).1.state
    have hleaving := leaveItem_steps d (enterItem d kind l "li" attrs s).2
      (walkAll d content (enterItem d kind l "li" attrs s).1.state).2
    refine List.forall_mem_cons.2 ⟨⟨base, ha⟩, List.forall_mem_append.2 ⟨hcontent hitem, ?_⟩⟩
    by_cases hafter : (walkAll d content (enterItem d kind l "li" attrs s).1.state).2.isStopped
    · rw [comesTo_stopped hafter, leaveItem_stopped hafter, momentsItems_stopped hafter]
      simp
    have hinside := (around_enterItem hlist hl hs ha).of_sublist
      (walkAll_lists d content hitem (not_isStopped_iff.1 hafter))
    have hstill := hsteps.grows.lists (lists_enterItem (d := d) hlist "li" attrs hl)
    rw [comesTo_running hafter]
    exact List.forall_mem_append.2 ⟨List.forall_mem_singleton.2 ⟨base, hinside⟩,
      hrest hlist (hleaving.sound (hsteps.sound hitem)) (hleaving.grows.lists hstill) base
        (around_leaveItem hinside)⟩
  itemsOther kind tag attrs label content rest l s h hli hn hrest hlist hs hl base ha := by
    rw [momentsItems_other h hli]
    have hsteps := walk_steps d (element tag attrs label content) s
    refine List.forall_mem_append.2 ⟨hn hs, ?_⟩
    by_cases hafter : (walk d (element tag attrs label content) s).2.isStopped
    · simp [momentsItems_stopped hafter]
    exact hrest hlist (hsteps.sound hs) (hsteps.grows.lists hl) base
      (ha.of_sublist (walk_lists d (element tag attrs label content) hs (not_isStopped_iff.1 hafter)))

/-- The walk comes to the items and the ends of lists with the lists in scope nested. -/
theorem nested_moments (n : Draft) {s : State} (hs : s.scope.Sound) :
    ∀ m ∈ moments d n s, m.event.Nested m.before.scope := (nested_cases d).walk n s hs

end Draft

/-! ## Documents without headings in lists -/

/-- The list of the event is the innermost series in scope, and a heading is outside of lists. -/
def Walk.Event.Clear (s : Scope) : Walk.Event → Prop
  | heading .. => s.lists = []
  | item _ l _ | leaveItem l | leaveList l => ∃ base, s.Inner base l.series
  | list .. | element .. => True

namespace Draft
open Scope Walk State
variable (d : Defaults)

/-- Where no list has a heading in it, each part of a walk comes to headings with no list in scope, and to items
and the ends of lists with no series in front of that of the list. -/
theorem clear_cases : WalkCases d
    (fun n s => n.BareLists → s.scope.Sound → headingLevels n = [] ∨ s.scope.lists = [] →
      ∀ m ∈ moments d n s, m.event.Clear m.before.scope)
    (fun ns s => BareListsAll ns → s.scope.Sound → headingLevelsAll ns = [] ∨ s.scope.lists = [] →
      ∀ m ∈ momentsAll d ns s, m.event.Clear m.before.scope)
    fun kind ns l s => BareListsAll ns → s.scope.Sound → headingLevelsAll ns = [] →
      ∀ base, s.scope.Inner base l.series →
      ∀ m ∈ momentsItems d kind ns l s, m.event.Clear m.before.scope where
  stopped n s h _ _ _ := by simp [moments_stopped h]
  leaf n s _ hn _ _ _ := by simp [moments_leaf hn]
  heading level tag attrs label children s h hk _ _ hfree := by
    rw [headingLevels_heading hk] at hfree
    rw [moments_heading h hk]
    exact List.forall_mem_singleton.2 (hfree.resolve_left (by simp))
  other tag attrs label children s h hk hchildren hbare hs hfree := by
    rw [headingLevels_other (not_heading_of_none hk), ← scope_enterElement tag attrs s] at hfree
    rw [moments_other h hk]
    exact List.forall_mem_cons.2
      ⟨trivial, hchildren hbare.2 ((enterElement_steps d tag attrs s).sound hs) hfree⟩
  bareList kind tag attrs attrs' label children s s' h hk hlist he hchildren hbare hs _ := by
    have henter := steps_of_enterList he
    rw [moments_bareList h hk hlist he]
    exact List.forall_mem_cons.2
      ⟨trivial, hchildren hbare.2 (henter.sound hs) (Or.inl (hbare.1 (by rw [hk]; exact hlist)))⟩
  list kind tag attrs attrs' label children l s s' h hk hlist he hchildren hbare hs _ := by
    have henter := steps_of_enterList he
    rw [moments_list h hk hlist he]
    obtain ⟨rfl, template, hscope⟩ := scope_enterList_some he
    have hinner := hs.inner_started kind template
      (template.template.segment.parent.bind s.scope.find?) d.styled
    rw [← hscope] at hinner
    exact List.forall_mem_cons.2
      ⟨trivial, hchildren hbare.2 (henter.sound hs) (hbare.1 (by rw [hk]; exact hlist)) _ hinner⟩
  nil s _ _ _ := by simp [momentsAll]
  cons n rest s hn hrest hbare hs hfree := by
    rw [momentsAll]
    rw [headingLevelsAll, List.append_eq_nil_iff] at hfree
    refine List.forall_mem_append.2 ⟨hn hbare.1 hs (hfree.imp_left And.left), ?_⟩
    by_cases hafter : (walk d n s).2.isStopped
    · rw [momentsAll_stopped hafter]
      simp
    have hlists := walk_lists d n hs (not_isStopped_iff.1 hafter)
    refine hrest hbare.2 ((walk_steps d n s).sound hs) (hfree.imp And.right fun hnil => ?_)
    exact List.sublist_nil.1 (hnil ▸ hlists)
  itemsStopped kind ns l s h _ _ _ _ _ := by simp [momentsItems_stopped h]
  itemsNil kind l s h _ _ _ base hi := by
    rw [momentsItems, comesTo_running h]
    exact List.forall_mem_singleton.2 ⟨base, hi⟩
  itemsLeaf kind n rest l s _ hn hrest hbare hs hfree base hi := by
    rw [momentsItems_leaf hn]
    exact hrest hbare.2 hs (List.append_eq_nil_iff.1 hfree).2 base hi
  item kind attrs label content rest l s h hcontent hrest hbare hs hfree base hi := by
    obtain ⟨hinner, hfree⟩ := List.append_eq_nil_iff.1 hfree
    rw [headingLevels_other not_heading_li] at hinner
    rw [momentsItems_item h]
    have hitem := (enterItem_steps d kind l "li" attrs s).sound hs
    have hsound := (walkAll_steps d content _).sound hitem
    have hleaving := leaveItem_steps d (enterItem d kind l "li" attrs s).2
      (walkAll d content (enterItem d kind l "li" attrs s).1.state).2
    refine List.forall_mem_cons.2 ⟨⟨base, hi⟩, List.forall_mem_append.2
      ⟨hcontent hbare.1.2 hitem (Or.inl hinner), ?_⟩⟩
    by_cases hafter : (walkAll d content (enterItem d kind l "li" attrs s).1.state).2.isStopped
    · rw [comesTo_stopped hafter, leaveItem_stopped hafter, momentsItems_stopped hafter]
      simp
    have hafter' := not_isStopped_iff.1 hafter
    have hswaps := swaps_enterItem hs hi (running_of_walkAll d hafter')
    have hmid := hswaps.frames (walkAll_frames d content hinner hitem hafter')
    have hback := hmid.frames (hsound.frames_endBelow hmid.inner)
    rw [comesTo_running hafter]
    rw [leaveItem_of_running hafter'] at hleaving hrest ⊢
    exact List.forall_mem_append.2 ⟨List.forall_mem_singleton.2 ⟨base, hmid.inner⟩,
      hrest hbare.2 (hleaving.sound hsound) hfree base hback.inner⟩
  itemsOther kind tag attrs label content rest l s h hli hn hrest hbare hs hfree base hi := by
    obtain ⟨hfirst, hfree⟩ := List.append_eq_nil_iff.1 hfree
    rw [momentsItems_other h hli]
    have hsteps := walk_steps d (element tag attrs label content) s
    refine List.forall_mem_append.2 ⟨hn hbare.1 hs (Or.inl hfirst), ?_⟩
    by_cases hafter : (walk d (element tag attrs label content) s).2.isStopped
    · simp [momentsItems_stopped hafter]
    have hframes := walk_frames d (element tag attrs label content) hfirst hs (not_isStopped_iff.1 hafter)
    exact hrest hbare.2 (hsteps.sound hs) hfree base ⟨hframes.stack.trans hi.stack, hi.older⟩

/-- Where no list has a heading in it, no series stands in front of that of a list, and no list in front of a
heading. -/
theorem clear_moments (n : Draft) (hn : n.BareLists) {s : State} (hs : s.scope.Sound)
    (hfree : headingLevels n = [] ∨ s.scope.lists = []) :
    ∀ m ∈ moments d n s, m.event.Clear m.before.scope := (clear_cases d).walk n s hn hs hfree

end Draft

/-! ## Runs -/

namespace Labelling
open State Draft
variable (l : Labelling) (c : Template.Context) (doc : Node)

theorem moments_nested : ∀ m ∈ l.moments c doc, m.event.Nested m.before.scope := by
  rw [moments]
  split
  · simp
  · exact nested_moments _ _ (sound_begin _ _)

theorem moments_clear (h : doc.BareLists) : ∀ m ∈ l.moments c doc, m.event.Clear m.before.scope := by
  rw [moments]
  split
  · simp
  · exact clear_moments _ _ ((bareLists_ofNode doc h).markRefs none) (sound_begin _ _) (Or.inr rfl)

theorem moments_stacked : ∀ m ∈ l.moments c doc, m.before.scope.Stacked ∧ m.after.scope.Stacked := by
  have hstacked := l.moments_preserve c doc (P := fun s => s.scope.Sound ∧ s.scope.Stacked)
    (fun c' => ⟨sound_begin c' _, List.Pairwise.nil⟩) fun m hm hrun h =>
      ⟨(m.event.steps m.before).sound h.1, (m.turn hrun).stacked (l.moments_fit c doc m hm) h.1 h.2⟩
  exact fun m hm => ⟨(hstacked m hm).1.2, (hstacked m hm).2.2⟩

end Labelling
end Rubric
