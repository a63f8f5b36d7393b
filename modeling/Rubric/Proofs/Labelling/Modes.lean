import Rubric.Proofs.Labelling.Frames
import Rubric.Proofs.Scope.Recast

/-!
# Runs in the two modes

Whether labels are text or counters does not matter to their numbers.

* `Defaults.ofSettings_with_mode` : the settings are read alike;
* `Scope.erased` : a scope without what only counters need, the keys of series and who draws them;
* `recasts_erased` : numbers and labels do not depend on the rest, so that every change of a scope is one of
  the erased scope, and every look-up and label is too;
* `State.Twin s t` : two states that have not been stopped, with the same erased scope;
* `walk_twin`, `walkAll_twin` : walks over nodes without directives, one in each mode, lead from twins to
  twins.
-/

namespace Rubric

/-! ## The settings -/

/-- What the settings are read as depends on the mode in that counters draw the labels. -/
theorem Defaults.ofSettings_with_mode (c : Template.Context) (settings : Settings) (mode : Mode) :
    ofSettings c { settings with mode } =
      ((ofSettings c settings).1.map fun d => { d with styled := mode == .css },
        (ofSettings c settings).2) := by
  unfold ofSettings
  cases HeadingLevel.ofNat? settings.headingLevel with
  | none => rfl
  | some level =>
    dsimp only
    split
    · rfl
    · split
      · rfl
      · split <;> rfl

theorem Defaults.ofSettings_mode {c c' : Template.Context} {settings : Settings} {d : Defaults}
    (h : ofSettings c settings = (.ok d, c')) (mode : Mode) :
    ofSettings c { settings with mode } = (.ok { d with styled := mode == .css }, c') := by
  rw [ofSettings_with_mode, h]
  rfl

/-! ## Without what only counters need -/

/-- A series without what only counters need. -/
def Series.erased (s : Series) : Series := { s with styled := false, key := 0 }

/-- Numbers and labels do not depend on what only counters need. -/
theorem Series.recasts_erased : Recasts erased :=
  ⟨fun _ => rfl, fun _ => rfl, fun _ => rfl, fun _ => rfl, fun _ => rfl, fun _ _ => rfl, fun _ _ => rfl⟩

namespace Roster

def erased (r : Roster) : Roster := ⟨r.series.map Series.erased, []⟩

@[simp] theorem size_erased (r : Roster) : r.erased.series.size = r.series.size :=
  size_recast Series.erased r

theorem text_congr {r r' : Roster} (h : r.erased = r'.erased) (id : SeriesId) :
    r.text id = r'.text id := by
  have herased : ∀ r : Roster, r.erased.text id = r.text id := fun r =>
    text_recast Series.recasts_erased r id
  rw [← herased r, h, herased r']

end Roster

namespace Scope

def erased (s : Scope) : Scope := ⟨s.roster.erased, s.stack⟩

theorem recast_erased (s : Scope) : s.recast Series.erased = s.erased := rfl

variable {s t : Scope}

theorem find?_erased (s : Scope) (selector : Selector) : s.erased.find? selector = s.find? selector :=
  find?_recast Series.recasts_erased s selector

theorem findKind?_erased (s : Scope) (kind : ElementKind) :
    s.erased.findKind? kind = s.findKind? kind :=
  findKind?_recast Series.recasts_erased s kind

theorem template_congr (h : s.erased = t.erased) (id : SeriesId) :
    (s.roster.get? id).map Series.template = (t.roster.get? id).map Series.template := by
  have hget : ∀ s : Scope, (s.erased.roster.get? id).map Series.template =
      (s.roster.get? id).map Series.template := fun s => by
    rw [← recast_erased, recast, Roster.get?_recast, Option.map_map]
    rfl
  rw [← hget s, h, hget t]

theorem label?_erased (s : Scope) (selector : Selector) :
    s.erased.label? selector = s.label? selector :=
  label?_recast Series.recasts_erased s selector

theorem erased_increment (s : Scope) (id : SeriesId) :
    (s.increment id).erased = s.erased.increment id :=
  recast_increment Series.recasts_erased s id

theorem erased_remove (s : Scope) (id : SeriesId) : (s.remove id).erased = s.erased.remove id := rfl

theorem erased_endBelow (s : Scope) (id : SeriesId) :
    (s.endBelow id).erased = s.erased.endBelow id :=
  recast_endBelow Series.recasts_erased s id

theorem erased_closeBelow (s : Scope) (level : HeadingLevel) :
    (s.closeBelow level).erased = s.erased.closeBelow level :=
  recast_closeBelow Series.recasts_erased s level

theorem erased_started (h : s.erased = t.erased) (kind : ElementKind)
    (template : Template.Instance) (parent : Option SeriesId) (styled styled' : Bool) :
    (s.started kind template parent styled).erased = (t.started kind template parent styled').erased :=
  recast_started Series.recasts_erased h rfl

theorem erased_replaced (h : s.erased = t.erased) (old : SeriesId) (kind : ElementKind)
    (template : Template.Instance) (styled styled' : Bool) :
    (s.replaced old kind template styled).erased = (t.replaced old kind template styled').erased :=
  recast_replaced Series.recasts_erased h old rfl

end Scope

namespace State
variable {s t : State}

/-- Two states that have not been stopped, which differ in what only counters need, and outside of their
scopes. -/
structure Twin (s t : State) : Prop where
  scope : s.scope.erased = t.scope.erased
  left : s.failure = none
  right : t.failure = none

theorem Twin.of_scope_eq {s' t' : State} (h : Twin s t) (hs : s'.scope = s.scope)
    (ht : t'.scope = t.scope) (hsf : s'.failure = s.failure) (htf : t'.failure = t.failure) :
    Twin s' t' := ⟨by rw [hs, ht, h.scope], hsf.trans h.left, htf.trans h.right⟩

theorem Twin.resolve (h : Twin s t) (attrs attrs' : Attrs) :
    Twin (s.resolve attrs) (t.resolve attrs') :=
  h.of_scope_eq (by simp) (by simp) (by simp) (by simp)

theorem Twin.stopped_left (h : Twin s t) : ¬s.isStopped := by simp [isStopped, h.left]

theorem Twin.stopped_right (h : Twin s t) : ¬t.isStopped := by simp [isStopped, h.right]

theorem Twin.size_eq (h : Twin s t) : s.scope.roster.series.size = t.scope.roster.series.size := by
  have := congrArg (fun s : Scope => s.roster.series.size) h.scope
  simpa [Scope.erased] using this

theorem Twin.find?_eq (h : Twin s t) : s.scope.find? = t.scope.find? := by
  funext selector
  rw [← Scope.find?_erased, h.scope, Scope.find?_erased]

theorem Twin.findKind?_eq (h : Twin s t) (kind : ElementKind) :
    s.scope.findKind? kind = t.scope.findKind? kind := by
  rw [← Scope.findKind?_erased, h.scope, Scope.findKind?_erased]

theorem Twin.childTemplate?_eq (h : Twin s t) (kind : ElementKind) :
    s.childTemplate? kind = t.childTemplate? kind := by
  have hchild : ∀ u : State, u.childTemplate? kind = (u.scope.findKind? kind).bind fun id =>
      ((u.scope.roster.get? id).map Series.template).bind Template.Instance.child? := by
    intro u
    rw [childTemplate?]
    cases u.scope.findKind? kind with
    | none => rfl
    | some id =>
      simp only [Option.bind_eq_bind, Option.bind_some]
      cases u.scope.roster.get? id <;> rfl
  rw [hchild, hchild, h.findKind?_eq]
  cases t.scope.findKind? kind with
  | none => rfl
  | some id => rw [Option.bind_some, Option.bind_some, Scope.template_congr h.scope]

theorem Twin.text_eq (h : Twin s t) (id : SeriesId) :
    s.scope.roster.text id = t.scope.roster.text id :=
  Roster.text_congr (congrArg Scope.roster h.scope) id

theorem Twin.increment (h : Twin s t) (id : SeriesId) : Twin (s.increment id) (t.increment id) :=
  ⟨by rw [scope_increment, scope_increment, Scope.erased_increment, Scope.erased_increment, h.scope],
    h.left, h.right⟩

theorem Twin.start (h : Twin s t) (kind : ElementKind) (template : Template.Instance)
    (styled styled' : Bool) :
    Twin
      { s with
        scope := s.scope.started kind template
          (template.template.segment.parent.bind s.scope.find?) styled }
      { t with
        scope := t.scope.started kind template
          (template.template.segment.parent.bind t.scope.find?) styled' } := by
  refine ⟨?_, h.left, h.right⟩
  rw [h.find?_eq]
  exact Scope.erased_started h.scope ..

end State

/-! ## Elements without directives -/

namespace State
variable {d : Defaults} {s t : State}

theorem headingSeries_none (s : State) (d : Defaults) (level : HeadingLevel) :
    s.headingSeries d level none =
      match s.scope.findKind? (.heading level) with
      | some current => (.ok (some current), s)
      | none =>
        match s.headingTemplate d level none with
        | none => (.ok none, s)
        | some template =>
          (.ok (some s.scope.roster.series.size),
            { s with
              scope := s.scope.started (.heading level) template
                (template.template.segment.parent.bind s.scope.find?) false }) := by
  rw [headingSeries, readDirective_none]
  dsimp only
  cases s.scope.findKind? (.heading level) with
  | some current => rfl
  | none =>
    dsimp only
    cases s.headingTemplate d level none with
    | none => rfl
    | some template => simp only [start_eq]

theorem Twin.listTemplate?_eq (h : Twin s t) (d : Defaults) (kind : ElementKind) (styled : Bool) :
    s.listTemplate? d kind = t.listTemplate? { d with styled } kind := by
  rw [listTemplate?, listTemplate?, h.findKind?_eq, h.childTemplate?_eq]
  cases kind <;> rfl

theorem Twin.headingTemplate_eq (h : Twin s t) (d : Defaults) (level : HeadingLevel) (styled : Bool) :
    s.headingTemplate d level none = t.headingTemplate { d with styled } level none := by
  rw [headingTemplate, headingTemplate]
  cases level.outer? with
  | none => rfl
  | some l => rw [Option.bind_some, Option.bind_some, h.childTemplate?_eq]

theorem Twin.headingSeries (h : Twin s t) (d : Defaults) (styled : Bool) (level : HeadingLevel) :
    ∃ id s' t', s.headingSeries d level none = (.ok id, s') ∧
      t.headingSeries { d with styled } level none = (.ok id, t') ∧ Twin s' t' := by
  rw [headingSeries_none, headingSeries_none, h.findKind?_eq, h.headingTemplate_eq d level styled]
  cases t.scope.findKind? (.heading level) with
  | some current => exact ⟨_, _, _, rfl, rfl, h⟩
  | none =>
    cases t.headingTemplate { d with styled } level none with
    | none => exact ⟨_, _, _, rfl, rfl, h⟩
    | some template =>
      refine ⟨_, _, _, rfl, ?_, h.start (.heading level) template false false⟩
      rw [h.size_eq]

end State

namespace Walk
open State
variable {s t : State}

theorem twin_enterHeading (h : Twin s t) {attrs : Attrs} (ha : attrs.Undirected) (d : Defaults)
    (styled : Bool) (level : HeadingLevel) (tag : String) :
    Twin (enterHeading d level tag attrs s).state
      (enterHeading { d with styled } level tag attrs t).state := by
  have hclose : Twin { s with scope := s.scope.closeBelow level }
      { t with scope := t.scope.closeBelow level } :=
    ⟨by rw [Scope.erased_closeBelow, Scope.erased_closeBelow, h.scope], h.left, h.right⟩
  obtain ⟨id, s', t', hs, ht, hseries⟩ := hclose.headingSeries d styled level
  rw [enterHeading, enterHeading, takeBoth_of_undirected ha]
  simp only [warn_nil, Bool.false_eq_true, if_false, hs, ht]
  cases id with
  | none => exact hseries.resolve attrs attrs
  | some id => exact (hseries.increment id).resolve attrs attrs

theorem twin_drawItem (h : Twin s t) (d d' : Defaults) {l l' : ListState} (hl : l.series = l'.series)
    (attrs attrs' : Attrs) :
    Twin (drawItem d l attrs s).1.state (drawItem d' l' attrs' t).1.state :=
  (h.increment l.series).of_scope_eq (by simp) (by simp [hl]) (by simp) (by simp)

theorem twin_leaveItem (h : Twin s t) {l l' : ListState} (hl : l.series = l'.series) :
    Twin (leaveItem l s) (leaveItem l' t) := by
  rw [leaveItem_of_running h.left, leaveItem_of_running h.right, hl]
  exact ⟨by rw [scope_endBelow, scope_endBelow, Scope.erased_endBelow, Scope.erased_endBelow, h.scope],
    h.left, h.right⟩

theorem twin_leaveList (h : Twin s t) {l l' : ListState} (hl : l.series = l'.series) :
    Twin (leaveList l s) (leaveList l' t) := by
  rw [leaveList_of_running h.left, leaveList_of_running h.right, hl]
  exact ⟨by rw [Scope.erased_remove, Scope.erased_remove, h.scope], h.left, h.right⟩

end Walk

/-! ## The walk -/

namespace Draft
open State Walk
variable (d : Defaults) (styled : Bool)

/-- Each part of a walk over nodes without directives leads from twins to twins. The series of a list stays. -/
theorem twin_cases : WalkCases d
    (fun n s => n.Plain → ∀ t, Twin s t → Twin (walk d n s).2 (walk { d with styled } n t).2)
    (fun ns s => PlainAll ns → ∀ t, Twin s t → Twin (walkAll d ns s).2 (walkAll { d with styled } ns t).2)
    fun kind ns l s => PlainAll ns → ∀ l' t, Twin s t → l.series = l'.series →
      Twin (walkItems d kind ns l s).2.2 (walkItems { d with styled } kind ns l' t).2.2 ∧
        (walkItems d kind ns l s).2.1.series = (walkItems { d with styled } kind ns l' t).2.1.series where
  stopped n s h _ t htwin := absurd h htwin.stopped_left
  leaf n s _ hn _ t htwin := by rwa [walk_leaf hn, walk_leaf hn]
  heading level tag attrs label children s h hk hplain t htwin := by
    rw [walk_heading h hk, walk_heading htwin.stopped_right hk]
    exact twin_enterHeading htwin hplain.1 d styled level tag
  other tag attrs label children s h hk hchildren hplain t htwin := by
    obtain ⟨ha, -, hplain⟩ := hplain
    rw [enterElement_of_undirected ha] at hchildren
    rw [walk_other h hk, walk_other htwin.stopped_right hk, enterElement_of_undirected ha,
      enterElement_of_undirected ha]
    exact hchildren hplain _ (htwin.resolve attrs attrs)
  bareList kind tag attrs attrs' label children s s' h hk hlist he hchildren hplain t htwin := by
    obtain ⟨ha, -, hplain⟩ := hplain
    obtain ⟨hnone, rfl, rfl⟩ := enterList_bare_of_undirected ha he
    have ht := enterList_of_undirected ha { d with styled } kind tag t
    rw [← htwin.listTemplate?_eq d kind styled, hnone] at ht
    rw [walk_bareList h hk hlist he, walk_bareList htwin.stopped_right hk hlist ht]
    exact hchildren hplain _ (htwin.resolve attrs' attrs')
  list kind tag attrs attrs' label children l s s' h hk hlist he hchildren hplain t htwin := by
    obtain ⟨ha, -, hplain⟩ := hplain
    obtain ⟨template, hsome, rfl, rfl, rfl⟩ := enterList_started_of_undirected ha he
    have ht := enterList_of_undirected ha { d with styled } kind tag t
    rw [← htwin.listTemplate?_eq d kind styled, hsome] at ht
    rw [walk_list h hk hlist he, walk_list htwin.stopped_right hk hlist ht]
    have hstart := (htwin.start kind template d.styled styled).resolve attrs' attrs'
    obtain ⟨hitems, hl⟩ := hchildren hplain { series := t.scope.roster.series.size } _ hstart htwin.size_eq
    exact twin_leaveList hitems hl
  nil s _ t htwin := by rwa [walkAll_nil, walkAll_nil]
  cons n rest s hn hrest hplain t htwin := by
    rw [walkAll_cons, walkAll_cons]
    exact hrest hplain.2 _ (hn hplain.1 t htwin)
  itemsStopped kind ns l s h _ l' t htwin _ := absurd h htwin.stopped_left
  itemsNil kind l s _ _ l' t htwin hl := by
    rw [walkItems_nil, walkItems_nil]
    exact ⟨htwin, hl⟩
  itemsLeaf kind n rest l s _ hn hrest hplain l' t htwin hl := by
    rw [walkItems_leaf hn, walkItems_leaf hn]
    exact hrest hplain.2 l' t htwin hl
  item kind attrs label content rest l s h hcontent hrest hplain l' t htwin hl := by
    obtain ⟨⟨ha, -, hinner⟩, hplain⟩ := hplain
    rw [enterItem_of_undirected ha] at hcontent hrest
    rw [walkItems_item h, walkItems_item htwin.stopped_right, enterItem_of_undirected ha,
      enterItem_of_undirected ha]
    have hmid := hcontent hinner _ (twin_drawItem htwin d { d with styled } hl attrs attrs)
    exact hrest hplain _ _ (twin_leaveItem hmid hl) hl
  itemsOther kind tag attrs label content rest l s h hli hn hrest hplain l' t htwin hl := by
    rw [walkItems_other h hli, walkItems_other htwin.stopped_right hli]
    exact hrest hplain.2 l' _ (hn hplain.1 t htwin) hl

/-- Walks over a node without directives lead from twins to twins. -/
theorem walk_twin (n : Draft) (hn : n.Plain) {s t : State} (h : Twin s t) :
    Twin (walk d n s).2 (walk { d with styled } n t).2 := (twin_cases d styled).walk n s hn t h

/-- The same for nodes in a row. -/
theorem walkAll_twin (ns : List Draft) (hns : PlainAll ns) {s t : State} (h : Twin s t) :
    Twin (walkAll d ns s).2 (walkAll { d with styled } ns t).2 := (twin_cases d styled).walkAll ns s hns t h

end Draft
end Rubric
