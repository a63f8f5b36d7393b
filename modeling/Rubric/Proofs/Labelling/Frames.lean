import Rubric.Proofs.Labelling.Steps
import Rubric.Proofs.Outline.Headings

/-!
# What a part of a document without headings leaves behind

* `Scope.Frames s s'` : the scope `s'` has the stack of `s`, and the series of `s` as they were;
* `Scope.Swaps s s' old new` : the same, but that `new` stands in the place of `old`, which has counted on;
* `walk_frames`, `walkAll_frames` : a walk over nodes without headings that comes to its end leaves the scope
  in such a way.
-/

namespace Rubric

namespace Scope
variable {s s' s'' : Scope}

/-- The same stack, and the same series besides further ones. -/
structure Frames (s s' : Scope) : Prop where
  stack : s'.stack = s.stack
  view : ∀ id, s.roster.Has id → s'.roster.view? id = s.roster.view? id

theorem Frames.refl (s : Scope) : Frames s s := ⟨rfl, fun _ _ => rfl⟩

theorem Frames.has (h : Frames s s') {id : SeriesId} (hid : s.roster.Has id) : s'.roster.Has id := by
  obtain ⟨v, hv⟩ := Roster.exists_view? hid
  exact Roster.has_of_view? ((h.view id hid).trans hv)

theorem Frames.trans (h : Frames s s') (h' : Frames s' s'') : Frames s s'' :=
  ⟨h'.stack.trans h.stack, fun id hid => (h'.view id (h.has hid)).trans (h.view id hid)⟩

/-- The innermost series of a list, with the older ones below it. -/
structure Inner (s : Scope) (base : List SeriesId) (top : SeriesId) : Prop where
  stack : s.stack = top :: base
  older : ∀ id ∈ base, id < top

/-- The innermost series counts on, or another one stands in its place; all else is as it was. -/
structure Swaps (s s' : Scope) (base : List SeriesId) (old new : SeriesId) : Prop where
  inner : s'.Inner base new
  fresh : new = old ∨ ¬s.roster.Has new
  has : ∀ id, s.roster.Has id → s'.roster.Has id
  view : ∀ id, s.roster.Has id → id ≠ old → s'.roster.view? id = s.roster.view? id

theorem Inner.has {base : List SeriesId} {top : SeriesId} (h : s.Inner base top) (hs : s.Sound) :
    s.roster.Has top := hs.has top (h.stack ▸ List.mem_cons_self ..)

theorem Swaps.refl {base : List SeriesId} {top : SeriesId} (h : s.Inner base top) :
    Swaps s s base top top := ⟨h, Or.inl rfl, fun _ h => h, fun _ _ _ => rfl⟩

theorem Swaps.trans {base : List SeriesId} {old mid new : SeriesId} (h : Swaps s s' base old mid)
    (h' : Swaps s' s'' base mid new) : Swaps s s'' base old new := by
  refine ⟨h'.inner, ?_, fun id hid => h'.has id (h.has id hid), fun id hid hne => ?_⟩
  · rcases h'.fresh with rfl | hnot
    · exact h.fresh
    · exact Or.inr fun hid => hnot (h.has new hid)
  · have hne' : id ≠ mid := by
      rintro rfl
      rcases h.fresh with heq | hnot
      · exact hne heq
      · exact hnot hid
    exact (h'.view id (h.has id hid) hne').trans (h.view id hid hne)

theorem Swaps.frames {base : List SeriesId} {old new : SeriesId} (h : Swaps s s' base old new)
    (h' : Frames s' s'') : Swaps s s'' base old new :=
  ⟨⟨h'.stack.trans h.inner.stack, h.inner.older⟩, h.fresh, fun id hid => h'.has (h.has id hid),
    fun id hid hne => (h'.view id (h.has id hid)).trans (h.view id hid hne)⟩

theorem Frames.swaps {base : List SeriesId} {old new : SeriesId} (h : Frames s s')
    (h' : Swaps s' s'' base old new) : Swaps s s'' base old new :=
  ⟨h'.inner, h'.fresh.imp_right fun hnot hid => hnot (h.has hid), fun id hid => h'.has id (h.has hid),
    fun id hid hne => (h'.view id (h.has hid) hne).trans (h.view id hid)⟩

/-! ## Changes of a scope -/

theorem Sound.frames_endBelow (h : s.Sound) {base : List SeriesId} {top : SeriesId}
    (hi : s.Inner base top) : Frames s (s.endBelow top) := by
  obtain ⟨gone, hsh, -, hbelow⟩ := shrinks_endBelow s top
  refine ⟨?_, fun id _ => hsh.view id⟩
  rw [hsh.stack, List.filter_eq_self]
  intro id hid
  have hgone : id ∉ gone := fun hg => by
    have hlt := h.lt_of_below (hbelow id hg)
    rw [hi.stack] at hid
    rcases List.mem_cons.1 hid with rfl | hid
    · exact Nat.lt_irrefl _ hlt
    · exact Nat.lt_irrefl _ (Nat.lt_trans hlt (hi.older id hid))
  simpa using hgone

theorem swaps_increment {base : List SeriesId} {top : SeriesId} (hi : s.Inner base top) :
    Swaps s (s.increment top) base top top :=
  ⟨⟨hi.stack, hi.older⟩, Or.inl rfl, fun _ hid => (Roster.grows_increment _ _).has hid,
    fun _ _ hne => Roster.view?_increment_of_ne hne⟩

theorem Sound.swaps_replaced (h : s.Sound) {base : List SeriesId} {old : SeriesId}
    (hi : s.Inner base old) (kind : ElementKind) (template : Template.Instance) (styled : Bool) :
    Swaps s (s.replaced old kind template styled) base old s.roster.series.size := by
  have hold := hi.has h
  obtain ⟨gone, hsh, hbelow⟩ := shrinks_replace (s.create kind template
    ((s.roster.get? old).bind Series.parent) styled).2 old s.roster.series.size
  -- nothing hangs below the new series yet, and its parent is older than the old one
  have hparent : ∀ i, (s.roster.get? old).bind Series.parent = some i → i < old := by
    intro i hp
    obtain ⟨v, hv, hvp⟩ := Option.bind_eq_some_iff.1 hp
    exact h.older old _ i (Roster.view?_of_get? hv) hvp
  have hchild : ∀ i c, old ≤ i → c ∈ (s.create kind template
      ((s.roster.get? old).bind Series.parent) styled).2.roster.children i →
      old < c ∧ s.roster.Has c := by
    intro i c hi' hc
    rcases Roster.mem_children_create _ _ _ _ _ hc with hc | ⟨hp, -⟩
    · obtain ⟨v, hv, -⟩ := h.linked i c hc
      exact ⟨Nat.lt_of_le_of_lt hi' (h.lt_of_child hc), Roster.has_of_view? hv⟩
    · exact absurd (hparent i hp) (Nat.not_lt.2 hi')
  have hgone : ∀ j ∈ gone, old < j ∧ s.roster.Has j := by
    intro j hj
    refine (hbelow j hj).induct (fun i => old < i ∧ s.roster.Has i)
      (fun c hc => hchild old c (Nat.le_refl _) hc) fun i c hi' hc => ?_
    exact hchild i c (Nat.le_of_lt hi'.1) hc
  have hswapped : swapped s.stack old s.roster.series.size = s.roster.series.size :: base := by
    rw [hi.stack, swapped, if_pos (by simp), List.map_cons, if_pos rfl]
    refine congrArg (s.roster.series.size :: ·) ?_
    refine (List.map_congr_left fun id hid => ?_).trans (List.map_id base)
    exact if_neg (Nat.ne_of_lt (hi.older id hid))
  have hview : ∀ id, s.roster.Has id →
      (s.replaced old kind template styled).roster.view? id = s.roster.view? id := fun id hid =>
    (hsh.view id).trans (Roster.view?_create_of_has hid ..)
  refine ⟨⟨?_, fun id hid => Nat.lt_trans (hi.older id hid) hold⟩, Or.inr (Nat.lt_irrefl _),
    fun id hid => ?_, fun id hid _ => hview id hid⟩
  · refine (hsh.stack.trans (List.filter_eq_self.2 fun id hid => ?_)).trans hswapped
    have hid : id ∈ s.roster.series.size :: base := hswapped ▸ hid
    have hnot : id ∉ gone := fun hg => by
      obtain ⟨hlt, hhas⟩ := hgone id hg
      rcases List.mem_cons.1 hid with rfl | hid
      · exact Nat.lt_irrefl _ hhas
      · exact Nat.lt_irrefl _ (Nat.lt_trans hlt (hi.older id hid))
    simpa using hnot
  · obtain ⟨v, hv⟩ := Roster.exists_view? hid
    exact Roster.has_of_view? ((hview id hid).trans hv)

theorem Sound.inner_started (h : s.Sound) (kind : ElementKind) (template : Template.Instance)
    (parent : Option SeriesId) (styled : Bool) :
    (s.started kind template parent styled).Inner s.stack s.roster.series.size :=
  ⟨rfl, fun id hid => h.has id hid⟩

/-- A series that ends leaves the scope as it was before it started. -/
theorem Swaps.frames_remove {base : List SeriesId} {old new : SeriesId}
    (h : Swaps s s' base old new) (hstack : s''.stack = base) (hold : ¬s''.roster.Has old)
    (hview : ∀ id, s''.roster.Has id → s.roster.view? id = s''.roster.view? id) :
    Frames s'' (s'.remove new) := by
  refine ⟨?_, fun id hid => ?_⟩
  · rw [remove, h.inner.stack, hstack, List.filter_cons_of_neg (by simp), List.filter_eq_self]
    intro id hid
    have := Nat.ne_of_lt (h.inner.older id hid)
    simpa using this
  · have hne : id ≠ old := fun heq => hold (heq ▸ hid)
    obtain ⟨v, hv⟩ := Roster.exists_view? hid
    have hhas : s.roster.Has id := Roster.has_of_view? ((hview id hid).trans hv)
    exact (h.view id hhas hne).trans (hview id hid)

end Scope

/-! ## The walk -/

namespace Walk
open Scope
variable {d : Defaults}

theorem failure_leaveItem (l : ListState) (s : State) : (leaveItem l s).failure = s.failure := by
  rw [leaveItem]
  split <;> rfl

theorem failure_leaveList (l : ListState) (s : State) : (leaveList l s).failure = s.failure := by
  rw [leaveList]
  split <;> rfl

theorem scope_enterElement (tag : String) (attrs : Attrs) (s : State) :
    (enterElement tag attrs s).state.scope = s.scope := by
  simp [enterElement]

theorem frames_enterElement (tag : String) (attrs : Attrs) (s : State) :
    Frames s.scope (enterElement tag attrs s).state.scope := by
  rw [scope_enterElement]
  exact .refl _

theorem scope_of_readDirective {s s' : State} {tag : String} {source : Option String}
    {result : Except LabelError (Option Template.Instance)}
    (h : s.readDirective tag source = (result, s')) : s'.scope = s.scope := by
  rw [← s.scope_readDirective tag source, h]

theorem scope_of_templateOfList {s s' : State} {kind : ElementKind} {tag : String}
    {source : Option String} {result : Except LabelError (Option Template.Instance)}
    (h : s.templateOfList d kind tag source = (result, s')) : s'.scope = s.scope := by
  rw [State.templateOfList] at h
  split at h
  · rename_i hr
    cases h
    exact scope_of_readDirective hr
  · exact scope_of_readDirective h

theorem scope_enterList_none {kind : ElementKind} {tag : String} {attrs attrs' : Attrs}
    {s s' : State} (h : enterList d kind tag attrs s = (attrs', none, s')) :
    s'.scope = s.scope := by
  rw [enterList] at h
  dsimp only at h
  split at h <;> rename_i hr <;> have hscope := scope_of_templateOfList hr <;> cases h
  · exact hscope
  · simpa [enterElement] using hscope

theorem scope_enterList_some {kind : ElementKind} {tag : String} {attrs attrs' : Attrs}
    {l : ListState} {s s' : State} (h : enterList d kind tag attrs s = (attrs', some l, s')) :
    l = { series := s.scope.roster.series.size } ∧ ∃ template : Template.Instance,
      s'.scope = s.scope.started kind template
        (template.template.segment.parent.bind s.scope.find?) d.styled := by
  rw [enterList] at h
  dsimp only at h
  split at h
  · cases h
  · cases h
  · rename_i template s₁ hr
    have hscope : s₁.scope = s.scope := scope_of_templateOfList (s := s.warn _) hr
    rw [State.start_eq] at h
    cases h
    rw [hscope]
    exact ⟨rfl, template, by simp⟩

/-- An item counts in the series of its list, or in one that stands in its place from there on. -/
theorem swaps_enterItem {kind : ElementKind} {l : ListState} {tag : String} {attrs : Attrs}
    {s : State} {base : List SeriesId} (hs : s.scope.Sound) (hi : s.scope.Inner base l.series)
    (hend : (enterItem d kind l tag attrs s).1.state.failure = none) :
    Swaps s.scope (enterItem d kind l tag attrs s).1.state.scope base l.series
      (enterItem d kind l tag attrs s).2.series := by
  rw [enterItem] at hend ⊢
  by_cases hsup : (takeBoth tag attrs).suppressed
  · simp only [hsup, if_true] at hend ⊢
    simpa using Swaps.refl hi
  · simp only [hsup] at hend ⊢
    cases hr : (s.warn (takeBoth tag attrs).warnings).readDirective tag (takeBoth tag attrs).source with
    | mk result s' =>
      rw [hr] at hend
      have hscope : s'.scope = s.scope := scope_of_readDirective (s := s.warn _) hr
      cases result with
      | error e => cases hend
      | ok template =>
        cases template with
        | none =>
          simp only [Bool.false_eq_true, if_false, series_drawItem, scope_drawItem, hscope]
          exact swaps_increment hi
        | some template =>
          simp only [Bool.false_eq_true, if_false, series_drawItem, scope_drawItem, State.replace_eq,
            hscope]
          have hreplaced := hs.swaps_replaced hi kind template d.styled
          exact hreplaced.trans (swaps_increment hreplaced.inner)

end Walk

namespace Draft
open Scope Walk State
variable (d : Defaults)

theorem running_of_walk {n : Draft} {s : State} (h : (walk d n s).2.failure = none) :
    s.failure = none := by
  by_cases hs : s.isStopped
  · rwa [walk_stopped hs] at h
  · exact State.not_isStopped_iff.1 hs

theorem running_of_walkAll {ns : List Draft} {s : State} (h : (walkAll d ns s).2.failure = none) :
    s.failure = none := by
  by_cases hs : s.isStopped
  · rwa [walkAll_stopped hs] at h
  · exact State.not_isStopped_iff.1 hs

theorem running_of_walkItems {kind : ElementKind} {ns : List Draft} {l : ListState} {s : State}
    (h : (walkItems d kind ns l s).2.2.failure = none) : s.failure = none := by
  by_cases hs : s.isStopped
  · rwa [walkItems_stopped hs] at h
  · exact State.not_isStopped_iff.1 hs

/-- Each part of a walk over nodes without headings leaves the scope as it was. The children of a list leave
the series of the list innermost. -/
theorem frames_cases : WalkCases d
    (fun n s => headingLevels n = [] → s.scope.Sound → (walk d n s).2.failure = none →
      Frames s.scope (walk d n s).2.scope)
    (fun ns s => headingLevelsAll ns = [] → s.scope.Sound → (walkAll d ns s).2.failure = none →
      Frames s.scope (walkAll d ns s).2.scope)
    fun kind ns l s => headingLevelsAll ns = [] → s.scope.Sound → (walkItems d kind ns l s).2.2.failure = none →
      ∀ base, s.scope.Inner base l.series → Swaps s.scope (walkItems d kind ns l s).2.2.scope base l.series
        (walkItems d kind ns l s).2.1.series where
  stopped n s h _ _ _ := by
    rw [walk_stopped h]
    exact .refl _
  leaf n s _ hn _ _ _ := by
    rw [walk_leaf hn]
    exact .refl _
  heading level tag attrs label children s _ hk hfree _ _ := by
    rw [headingLevels_heading hk] at hfree
    cases hfree
  other tag attrs label children s h hk hchildren hfree hs hend := by
    rw [headingLevels_other (not_heading_of_none hk)] at hfree
    rw [walk_other h hk] at hend ⊢
    exact (frames_enterElement tag attrs s).trans
      (hchildren hfree ((enterElement_steps d tag attrs s).sound hs) hend)
  bareList kind tag attrs attrs' label children s s' h hk hlist he hchildren hfree hs hend := by
    have henter := steps_of_enterList he
    rw [headingLevels_other (not_heading_of_list hk hlist)] at hfree
    rw [walk_bareList h hk hlist he] at hend ⊢
    have hall := hchildren hfree (henter.sound hs) hend
    rwa [scope_enterList_none he] at hall
  list kind tag attrs attrs' label children l s s' h hk hlist he hchildren hfree hs hend := by
    have henter := steps_of_enterList he
    rw [headingLevels_other (not_heading_of_list hk hlist)] at hfree
    rw [walk_list h hk hlist he] at hend ⊢
    obtain ⟨rfl, template, hscope⟩ := scope_enterList_some he
    have hend' := (failure_leaveList _ _).symm.trans hend
    have hinner := hs.inner_started kind template
      (template.template.segment.parent.bind s.scope.find?) d.styled
    rw [← hscope] at hinner
    have hitems := hchildren hfree (henter.sound hs) hend' _ hinner
    rw [leaveList_of_running hend']
    refine hitems.frames_remove rfl (Nat.lt_irrefl _) fun id hid => ?_
    rw [hscope]
    exact view?_started_of_has hid ..
  nil s _ _ _ := by
    rw [walkAll_nil]
    exact .refl _
  cons n rest s hn hrest hfree hs hend := by
    obtain ⟨hfirst, hfree⟩ := List.append_eq_nil_iff.1 hfree
    rw [walkAll_cons] at hend ⊢
    exact (hn hfirst hs (running_of_walkAll d hend)).trans (hrest hfree ((walk_steps d n s).sound hs) hend)
  itemsStopped kind ns l s h _ _ _ base hi := by
    rw [walkItems_stopped h]
    exact .refl hi
  itemsNil kind l s _ _ _ _ base hi := by
    rw [walkItems_nil]
    exact .refl hi
  itemsLeaf kind n rest l s _ hn hrest hfree hs hend base hi := by
    rw [walkItems_leaf hn] at hend ⊢
    exact hrest (List.append_eq_nil_iff.1 hfree).2 hs hend base hi
  item kind attrs label content rest l s h hcontent hrest hfree hs hend base hi := by
    obtain ⟨hinner, hfree⟩ := List.append_eq_nil_iff.1 hfree
    rw [headingLevels_other not_heading_li] at hinner
    rw [walkItems_item h] at hend ⊢
    dsimp only at hend ⊢
    have hafter := (failure_leaveItem _ _).symm.trans (running_of_walkItems d hend)
    have henter := enterItem_steps d kind l "li" attrs s
    have hitem := swaps_enterItem hs hi (running_of_walkAll d hafter)
    have hmid := hitem.frames (hcontent hinner (henter.sound hs) hafter)
    have hto := henter.trans (walkAll_steps d content _)
    have hleave := (hto.sound hs).frames_endBelow hmid.inner
    have hleaving := leaveItem_steps d (enterItem d kind l "li" attrs s).2
      (walkAll d content (enterItem d kind l "li" attrs s).1.state).2
    rw [leaveItem_of_running hafter] at hrest hend hleaving ⊢
    have hback := hmid.frames hleave
    exact hback.trans (hrest hfree ((hto.trans hleaving).sound hs) hend base hback.inner)
  itemsOther kind tag attrs label content rest l s h hli hn hrest hfree hs hend base hi := by
    obtain ⟨hfirst, hfree⟩ := List.append_eq_nil_iff.1 hfree
    rw [walkItems_other h hli] at hend ⊢
    have hframes := hn hfirst hs (running_of_walkItems d hend)
    exact hframes.swaps (hrest hfree ((walk_steps d (element tag attrs label content) s).sound hs) hend base
      ⟨hframes.stack.trans hi.stack, hi.older⟩)

/-- A walk over a node without headings leaves the scope as it was. -/
theorem walk_frames (n : Draft) (hn : headingLevels n = []) {s : State} (hs : s.scope.Sound)
    (hend : (walk d n s).2.failure = none) : Frames s.scope (walk d n s).2.scope :=
  (frames_cases d).walk n s hn hs hend

/-- A walk over nodes without headings leaves the scope as it was. -/
theorem walkAll_frames (ns : List Draft) (hns : headingLevelsAll ns = []) {s : State}
    (hs : s.scope.Sound) (hend : (walkAll d ns s).2.failure = none) :
    Frames s.scope (walkAll d ns s).2.scope := (frames_cases d).walkAll ns s hns hs hend

end Draft
end Rubric
