import Rubric.Proofs.Stylesheet.Settled

/-!
# Documents without headings in lists

* `Draw.Inside` : a label is drawn in a settled scope, for a list that is open there;
* `walk_inside` : inside a list without headings all labels are drawn in such a way;
* `walk_bareLists` : in a document whose lists have no headings all labels are.
-/

namespace Rubric

/-- A label is drawn in a settled scope, for a list that is open there. -/
def Draw.Inside (w : Draw) : Prop :=
  ∃ s₀ s : Scope, s₀.Settled s ∧ s.roster = w.roster ∧ w.series ∈ s.stack ∧
    ¬s₀.roster.Has w.series

/-! ## Inside a list -/

namespace Walk
open Scope
variable {d : Defaults} {s₀ : Scope}

theorem inside_nextDraw {l : ListState} {s : State} (h : s₀.Settled s.scope)
    (hl : ¬s₀.roster.Has l.series) (hmem : l.series ∈ s.scope.stack) : (nextDraw l s).Inside :=
  ⟨s₀, s.scope.increment l.series, h.increment hl, rfl, hmem, hl⟩

theorem settled_enterItem {kind : ElementKind} {l : ListState} {tag : String} {attrs : Attrs}
    {s : State} {base : List SeriesId} (hd : d.styled = true) (h : s₀.Settled s.scope)
    (hs : s.scope.Sound) (hi : s.scope.Inner base l.series) (hl : ¬s₀.roster.Has l.series)
    (hend : (enterItem d kind l tag attrs s).1.state.failure = none) :
    s₀.Settled (enterItem d kind l tag attrs s).1.state.scope ∧
      ¬s₀.roster.Has (enterItem d kind l tag attrs s).2.series ∧
      ∀ w ∈ itemDraw d kind l tag attrs s, w.Inside := by
  have hmem : l.series ∈ s.scope.stack := hi.stack ▸ List.mem_cons_self ..
  rw [enterItem] at hend ⊢
  rw [itemDraw]
  by_cases hsup : (takeBoth tag attrs).suppressed
  · simp only [hsup, if_true] at hend ⊢
    exact ⟨by simpa using h, hl, by simp⟩
  · simp only [hsup] at hend ⊢
    cases hr : (s.warn (takeBoth tag attrs).warnings).readDirective tag (takeBoth tag attrs).source with
    | mk result s' =>
      rw [hr] at hend
      have hscope : s'.scope = s.scope := scope_of_readDirective (s := s.warn _) hr
      cases result with
      | error e => cases hend
      | ok template =>
        cases template with
        | none =>
          simp only [Bool.false_eq_true, if_false, series_drawItem, scope_drawItem, hscope]
          refine ⟨h.increment hl, hl, fun w hw => ?_⟩
          rw [List.mem_singleton.1 hw]
          exact inside_nextDraw (hscope ▸ h) hl (hscope ▸ hmem)
        | some template =>
          have hreplaced := h.replace hs hi hl kind template
          have hswaps := hs.swaps_replaced hi kind template true
          have hnew : ¬s₀.roster.Has s.scope.roster.series.size := fun hhas =>
            Nat.lt_irrefl _ (h.has hhas)
          simp only [Bool.false_eq_true, if_false, series_drawItem, scope_drawItem, State.replace_eq,
            hscope, hd]
          refine ⟨hreplaced.increment hnew, hnew, fun w hw => ?_⟩
          rw [List.mem_singleton.1 hw]
          refine inside_nextDraw hreplaced hnew ?_
          rw [hswaps.inner.stack]
          exact List.mem_cons_self ..

end Walk

namespace Draft
open Scope Walk State
variable (d : Defaults)

/-- Inside a list without headings all labels of each part of a walk are drawn in settled scopes. -/
theorem inside_cases (hd : d.styled = true) (s₀ : Scope) : WalkCases d
    (fun n s => headingLevels n = [] → s.scope.Sound → (walk d n s).2.failure = none → s₀.Settled s.scope →
      ∀ w ∈ draws d n s, w.Inside)
    (fun ns s => headingLevelsAll ns = [] → s.scope.Sound → (walkAll d ns s).2.failure = none →
      s₀.Settled s.scope → ∀ w ∈ drawsAll d ns s, w.Inside)
    fun kind ns l s => headingLevelsAll ns = [] → s.scope.Sound → (walkItems d kind ns l s).2.2.failure = none →
      s₀.Settled s.scope → ¬s₀.roster.Has l.series → ∀ base, s.scope.Inner base l.series →
      ∀ w ∈ drawsItems d kind ns l s, w.Inside where
  stopped n s h _ _ _ _ := by simp [draws_stopped h]
  leaf n s _ hn _ _ _ _ := by simp [draws_leaf hn]
  heading level tag attrs label children s h hk _ _ _ _ := by simp [draws_heading h hk]
  other tag attrs label children s h hk hchildren hfree hs hend hsettled := by
    rw [headingLevels_other (not_heading_of_none hk)] at hfree
    rw [walk_other h hk] at hend
    rw [draws_other h hk]
    have hsteps := enterElement_steps d tag attrs s
    exact hchildren hfree (hsteps.sound hs) hend
      (hsettled.frames hs (frames_enterElement tag attrs s) hsteps.grows)
  bareList kind tag attrs attrs' label children s s' h hk hlist he hchildren hfree hs hend hsettled := by
    have henter := steps_of_enterList he
    rw [headingLevels_other (not_heading_of_list hk hlist)] at hfree
    rw [walk_bareList h hk hlist he] at hend
    rw [draws_bareList h hk hlist he]
    exact hchildren hfree (henter.sound hs) hend (scope_enterList_none he ▸ hsettled)
  list kind tag attrs attrs' label children l s s' h hk hlist he hchildren hfree hs hend hsettled := by
    have henter := steps_of_enterList he
    rw [headingLevels_other (not_heading_of_list hk hlist)] at hfree
    rw [walk_list h hk hlist he] at hend
    rw [draws_list h hk hlist he]
    obtain ⟨rfl, template, hscope⟩ := scope_enterList_some he
    rw [hd] at hscope
    exact hchildren hfree (henter.sound hs) ((failure_leaveList _ _).symm.trans hend)
      (hscope ▸ hsettled.start hs kind template fun _ => mem_of_selected)
      (fun hhas => Nat.lt_irrefl _ (hsettled.has hhas)) _ (hscope ▸ hs.inner_started kind template _ true)
  nil s _ _ _ _ := by simp [drawsAll]
  cons n rest s hn hrest hfree hs hend hsettled := by
    obtain ⟨hfirst, hfree⟩ := List.append_eq_nil_iff.1 hfree
    rw [walkAll_cons] at hend
    have hmid := running_of_walkAll d hend
    have hsteps := walk_steps d n s
    rw [drawsAll]
    exact List.forall_mem_append.2 ⟨hn hfirst hs hmid hsettled, hrest hfree (hsteps.sound hs) hend
      (hsettled.frames hs (walk_frames d n hfirst hs hmid) hsteps.grows)⟩
  itemsStopped kind ns l s h _ _ _ _ _ _ _ := by simp [drawsItems_stopped h]
  itemsNil kind l s _ _ _ _ _ _ _ _ := by simp [drawsItems]
  itemsLeaf kind n rest l s _ hn hrest hfree hs hend hsettled hl base hi := by
    rw [walkItems_leaf hn] at hend
    rw [drawsItems_leaf hn]
    exact hrest (List.append_eq_nil_iff.1 hfree).2 hs hend hsettled hl base hi
  item kind attrs label content rest l s h hcontent hrest hfree hs hend hsettled hl base hi := by
    obtain ⟨hinner, hfree⟩ := List.append_eq_nil_iff.1 hfree
    rw [headingLevels_other not_heading_li] at hinner
    rw [walkItems_item h] at hend
    rw [drawsItems_item h]
    dsimp only at hend ⊢
    have hafter := (failure_leaveItem _ _).symm.trans (running_of_walkItems d hend)
    have henter := enterItem_steps d kind l "li" attrs s
    obtain ⟨hitem, hl', hdraw⟩ := settled_enterItem hd hsettled hs hi hl (running_of_walkAll d hafter)
    have hswaps := swaps_enterItem hs hi (running_of_walkAll d hafter)
    have hsteps := walkAll_steps d content (enterItem d kind l "li" attrs s).1.state
    have hframes := walkAll_frames d content hinner (henter.sound hs) hafter
    have hmid := hitem.frames (henter.sound hs) hframes hsteps.grows
    have hsound := (henter.trans hsteps).sound hs
    have hleave := hsound.frames_endBelow (hswaps.frames hframes).inner
    have hleaving := leaveItem_steps d (enterItem d kind l "li" attrs s).2
      (walkAll d content (enterItem d kind l "li" attrs s).1.state).2
    rw [leaveItem_of_running hafter] at hend hleaving hrest ⊢
    exact List.forall_mem_append.2 ⟨hdraw, List.forall_mem_append.2
      ⟨hcontent hinner (henter.sound hs) hafter hitem, hrest hfree (hleaving.sound hsound) hend
        (hmid.frames hsound hleave hleaving.grows) hl' base ((hswaps.frames hframes).frames hleave).inner⟩⟩
  itemsOther kind tag attrs label content rest l s h hli hn hrest hfree hs hend hsettled hl base hi := by
    obtain ⟨hfirst, hfree⟩ := List.append_eq_nil_iff.1 hfree
    rw [walkItems_other h hli] at hend
    rw [drawsItems_other h hli]
    have hmid := running_of_walkItems d hend
    have hsteps := walk_steps d (element tag attrs label content) s
    have hframes := walk_frames d (element tag attrs label content) hfirst hs hmid
    exact List.forall_mem_append.2 ⟨hn hfirst hs hmid hsettled, hrest hfree (hsteps.sound hs) hend
      (hsettled.frames hs hframes hsteps.grows) hl base ⟨hframes.stack.trans hi.stack, hi.older⟩⟩

/-- Inside a list without headings all labels are drawn in settled scopes. -/
theorem walk_inside {s₀ : Scope} (hd : d.styled = true) (n : Draft) (hn : headingLevels n = []) {s : State}
    (h : s₀.Settled s.scope) (hs : s.scope.Sound) (hend : (walk d n s).2.failure = none) :
    ∀ w ∈ draws d n s, w.Inside := (inside_cases d hd s₀).walk n s hn hs hend h

end Draft

/-! ## Outside of lists -/

namespace Scope
variable {s s' : Scope}

theorem Unstyled.frames (h : s.Unstyled) (hf : Frames s s') (hg : s.roster.Grows s'.roster) :
    s'.Unstyled := fun id hid => hg.styledAs (h id (hf.stack ▸ hid))

theorem Unstyled.shrinks {gone : List SeriesId} (h : s.Unstyled) (hs : Shrinks s s' gone) :
    s'.Unstyled := by
  intro id hid
  obtain ⟨v, hv, hstyled⟩ := h id (hs.mem.1 hid).1
  exact ⟨v, (hs.view id).trans hv, hstyled⟩

theorem Unstyled.increment (h : s.Unstyled) (id : SeriesId) : (s.increment id).Unstyled :=
  fun j hj => (Roster.grows_increment _ _).styledAs (h j hj)

theorem Unstyled.start (h : s.Unstyled) (kind : ElementKind) (template : Template.Instance)
    (parent : Option SeriesId) : (s.started kind template parent false).Unstyled := by
  intro id hid
  rcases List.mem_cons.1 hid with rfl | hid
  · exact ⟨_, Roster.view?_create_self .., rfl⟩
  · exact (s.roster.grows_create kind template parent false).styledAs (h id hid)

theorem Unstyled.replace (h : s.Unstyled) (old : SeriesId) (kind : ElementKind)
    (template : Template.Instance) : (s.replaced old kind template false).Unstyled := by
  obtain ⟨gone, hsh, -⟩ := shrinks_replace (s.create kind template
    ((s.roster.get? old).bind Series.parent) false).2 old s.roster.series.size
  refine Unstyled.shrinks (s := { (s.create kind template ((s.roster.get? old).bind Series.parent)
    false).2 with stack := swapped s.stack old s.roster.series.size }) ?_ hsh
  intro id hid
  rcases mem_swapped hid with rfl | hid
  · exact ⟨_, Roster.view?_create_self .., rfl⟩
  · exact (s.roster.grows_create kind template _ false).styledAs (h id hid)

end Scope

namespace Walk
open Scope
variable {d : Defaults}

theorem unstyled_headingSeries {level : HeadingLevel} {source : Option String} {s s' : State}
    {result : Except LabelError (Option SeriesId)} (h : s.scope.Unstyled)
    (hr : s.headingSeries d level source = (result, s')) : s'.scope.Unstyled := by
  rw [State.headingSeries] at hr
  split at hr <;> rename_i hread <;> have hscope := scope_of_readDirective hread
  · cases hr
    rwa [hscope]
  · split at hr
    · cases hr
      rwa [hscope]
    · rw [State.replace_eq] at hr
      cases hr
      rw [hscope]
      exact h.replace _ _ _
    · split at hr
      · cases hr
        rwa [hscope]
      · rw [State.start_eq] at hr
        cases hr
        rw [hscope]
        exact h.start _ _ _

theorem unstyled_enterHeading {s : State} (h : s.scope.Unstyled) (level : HeadingLevel)
    (tag : String) (attrs : Attrs) : (enterHeading d level tag attrs s).state.scope.Unstyled := by
  obtain ⟨gone, hsh, -⟩ := shrinks_closeBelow s.scope level
  have hclose : (State.warn { s with scope := s.scope.closeBelow level }
      (takeBoth tag attrs).warnings).scope.Unstyled := h.shrinks hsh
  rw [enterHeading]
  split
  · simpa using hclose
  · split <;> rename_i hr <;> have hseries := unstyled_headingSeries hclose hr
    · exact hseries
    · simpa using hseries
    · simpa using hseries.increment _

end Walk

namespace Draft
open Scope Walk State
variable (d : Defaults)

/-- A node without headings leaves no list of counters open, and draws in settled scopes. -/
theorem unstyled_of_free (hd : d.styled = true) {n : Draft} (hn : headingLevels n = []) {s : State}
    (hs : s.scope.Sound) (hend : (walk d n s).2.failure = none) (h : s.scope.Unstyled) :
    (walk d n s).2.scope.Unstyled ∧ ∀ w ∈ draws d n s, w.Inside :=
  ⟨h.frames (walk_frames d n hn hs hend) (walk_steps d n s).grows,
    walk_inside d hd n hn (h.settled hs) hs hend⟩

/-- Where no list has a heading in it, all labels of each part of a walk outside of lists are drawn in settled
scopes. -/
theorem bareLists_cases (hd : d.styled = true) : WalkCases d
    (fun n s => n.BareLists → s.scope.Sound → (walk d n s).2.failure = none → s.scope.Unstyled →
      (walk d n s).2.scope.Unstyled ∧ ∀ w ∈ draws d n s, w.Inside)
    (fun ns s => BareListsAll ns → s.scope.Sound → (walkAll d ns s).2.failure = none → s.scope.Unstyled →
      (walkAll d ns s).2.scope.Unstyled ∧ ∀ w ∈ drawsAll d ns s, w.Inside)
    fun _ _ _ _ => True where
  stopped n s h _ _ _ hunstyled := by
    rw [walk_stopped h]
    exact ⟨hunstyled, by simp [draws_stopped h]⟩
  leaf n s _ hn _ _ _ hunstyled := by
    rw [walk_leaf hn]
    exact ⟨hunstyled, by simp [draws_leaf hn]⟩
  heading level tag attrs label children s h hk _ _ _ hunstyled := by
    rw [walk_heading h hk, draws_heading h hk]
    exact ⟨unstyled_enterHeading hunstyled level tag attrs, by simp⟩
  other tag attrs label children s h hk hchildren hbare hs hend hunstyled := by
    rw [walk_other h hk] at hend ⊢
    rw [draws_other h hk]
    have hsteps := enterElement_steps d tag attrs s
    exact hchildren hbare.2 (hsteps.sound hs) hend
      (hunstyled.frames (frames_enterElement tag attrs s) hsteps.grows)
  bareList kind tag attrs attrs' label children s s' _ hk hlist _ _ hbare hs hend hunstyled :=
    unstyled_of_free d hd (headingLevels_list hk hlist hbare) hs hend hunstyled
  list kind tag attrs attrs' label children l s s' _ hk hlist _ _ hbare hs hend hunstyled :=
    unstyled_of_free d hd (headingLevels_list hk hlist hbare) hs hend hunstyled
  nil s _ _ _ hunstyled := by
    rw [walkAll_nil]
    exact ⟨hunstyled, by simp [drawsAll]⟩
  cons n rest s hn hrest hbare hs hend hunstyled := by
    rw [walkAll_cons] at hend ⊢
    obtain ⟨hmid, hfirst⟩ := hn hbare.1 hs (running_of_walkAll d hend) hunstyled
    obtain ⟨hlast, hrest⟩ := hrest hbare.2 ((walk_steps d n s).sound hs) hend hmid
    rw [drawsAll]
    exact ⟨hlast, List.forall_mem_append.2 ⟨hfirst, hrest⟩⟩
  itemsStopped _ _ _ _ _ := trivial
  itemsNil _ _ _ _ := trivial
  itemsLeaf _ _ _ _ _ _ _ _ := trivial
  item _ _ _ _ _ _ _ _ _ _ := trivial
  itemsOther _ _ _ _ _ _ _ _ _ _ _ _ := trivial

/-- Where no list has a heading in it, all labels are drawn in settled scopes. -/
theorem walk_bareLists (hd : d.styled = true) (n : Draft) (hn : n.BareLists) {s : State}
    (h : s.scope.Unstyled) (hs : s.scope.Sound) (hend : (walk d n s).2.failure = none) :
    (walk d n s).2.scope.Unstyled ∧ ∀ w ∈ draws d n s, w.Inside :=
  (bareLists_cases d hd).walk n s hn hs hend h

end Draft
end Rubric
