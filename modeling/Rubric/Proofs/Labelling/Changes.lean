import Rubric.Labelling.Walk
import Rubric.Proofs.Scope.Start
import Rubric.Proofs.Tree.Attrs

/-!
# The changes of a run, part by part

* `State.scope_*`, `State.failure_*`, `State.stylesheet_*`, `State.context_*` : which part of a state a
  change leaves alone;
* `State.listTemplate?` : the template of a list that has none of its own;
* `dressed_drawItem` : what the label of an item makes of its attributes and of the classes of its list;
* `Attrs.Undirected` : no directive is among the attributes; `takeBoth_of_undirected`,
  `enterElement_of_undirected`, `enterList_of_undirected` and `enterItem_of_undirected` : then there is
  nothing to take off.
-/

namespace Rubric
namespace State
variable (s : State)

@[simp] theorem scope_warn (ws : List Warning) : (s.warn ws).scope = s.scope := rfl
@[simp] theorem failure_warn (ws : List Warning) : (s.warn ws).failure = s.failure := rfl
@[simp] theorem context_warn (ws : List Warning) : (s.warn ws).context = s.context := rfl
@[simp] theorem stylesheet_warn (ws : List Warning) : (s.warn ws).stylesheet = s.stylesheet := rfl

@[simp] theorem warn_nil : s.warn [] = s := by
  simp [warn]

@[simp] theorem scope_addRules (rules : List Rule) : (s.addRules rules).scope = s.scope := rfl
@[simp] theorem failure_addRules (rules : List Rule) : (s.addRules rules).failure = s.failure := rfl
@[simp] theorem context_addRules (rules : List Rule) : (s.addRules rules).context = s.context := rfl
@[simp] theorem stylesheet_addRules (rules : List Rule) :
    (s.addRules rules).stylesheet = s.stylesheet.addAll rules := rfl

@[simp] theorem scope_resolve (attrs : Attrs) : (s.resolve attrs).scope = s.scope := by
  unfold resolve; split <;> rfl

@[simp] theorem failure_resolve (attrs : Attrs) : (s.resolve attrs).failure = s.failure := by
  unfold resolve; split <;> rfl

@[simp] theorem context_resolve (attrs : Attrs) : (s.resolve attrs).context = s.context := by
  unfold resolve; split <;> rfl

@[simp] theorem stylesheet_resolve (attrs : Attrs) :
    (s.resolve attrs).stylesheet = s.stylesheet := by
  unfold resolve; split <;> rfl

@[simp] theorem scope_increment (id : SeriesId) :
    (s.increment id).scope = s.scope.increment id := rfl
@[simp] theorem failure_increment (id : SeriesId) : (s.increment id).failure = s.failure := rfl
@[simp] theorem context_increment (id : SeriesId) : (s.increment id).context = s.context := rfl
@[simp] theorem stylesheet_increment (id : SeriesId) :
    (s.increment id).stylesheet = s.stylesheet := rfl

@[simp] theorem scope_endBelow (id : SeriesId) :
    (s.endBelow id).scope = s.scope.endBelow id := rfl

@[simp] theorem readDirective_none (tag : String) : s.readDirective tag none = (.ok none, s) := rfl

@[simp] theorem scope_readDirective (tag : String) (source : Option String) :
    (s.readDirective tag source).2.scope = s.scope := rfl
@[simp] theorem stylesheet_readDirective (tag : String) (source : Option String) :
    (s.readDirective tag source).2.stylesheet = s.stylesheet := rfl

theorem not_isStopped_iff {t : State} : ¬t.isStopped ↔ t.failure = none := by
  simp [isStopped]

def listTemplate? (s : State) (d : Defaults) (kind : ElementKind) : Option Template.Instance :=
  if (s.scope.findKind? kind).isSome then s.childTemplate? kind else d.list kind

theorem templateOfList_none (d : Defaults) (kind : ElementKind) (tag : String) :
    s.templateOfList d kind tag none = (.ok (s.listTemplate? d kind), s) := rfl

end State

/-! ## Drawing -/

/-- Labels give items and lists classes and counter resets. -/
theorem Roster.dressed_drawItem (r : Roster) (styled : Bool) (id : SeriesId) (container : ContainerState)
    (attrs : Attrs) :
    attrs.Dressed (r.drawItem styled id container attrs).1.attrs ∧
      ∀ name ∈ (r.drawItem styled id container attrs).1.containerClasses, Css.IsLabelClass name := by
  have htext : attrs.Dressed (r.drawText id container attrs).1.attrs ∧
      ∀ name ∈ (r.drawText id container attrs).1.containerClasses, Css.IsLabelClass name := by
    refine ⟨.refl, fun name hname => Or.inl ?_⟩
    rw [drawText] at hname
    cases hmarked : container.marked <;> simp_all
  rw [drawItem]
  cases r.get? id with
  | none => exact htext
  | some s =>
    dsimp only
    split
    · rw [drawStyled]
      cases container.styling with
      | none => exact ⟨.refl, by simp [Css.IsLabelClass]⟩
      | some styling =>
        dsimp only
        split
        · refine ⟨?_, by simp⟩
          cases styling.switched with
          | true => exact Attrs.Dressed.refl.addClass (Or.inr ⟨s.key, rfl⟩)
          | false => exact .refl
        · exact ⟨(Attrs.Dressed.refl.addStyle s.key).addClass (Or.inr ⟨s.key, rfl⟩), by simp⟩
    · exact htext

/-! ## Elements without directives -/

def Attrs.Undirected (attrs : Attrs) : Prop :=
  ∀ d ∈ [Directive.label, .noLabel], attrs.get? d.name = none ∧ attrs.get? d.longName = none

instance (attrs : Attrs) : Decidable attrs.Undirected :=
  inferInstanceAs (Decidable (∀ _ ∈ _, _))

theorem Attrs.erase_of_get?_eq_none {attrs : Attrs} {name : String} (h : attrs.get? name = none) :
    attrs.erase name = attrs := by
  refine List.filter_eq_self.2 fun entry hentry => ?_
  induction attrs with
  | nil => cases hentry
  | cons e rest ih =>
    rw [get?] at h
    by_cases he : e.1 = name
    · rw [if_pos he] at h
      cases h
    · rw [if_neg he] at h
      rcases List.mem_cons.1 hentry with rfl | hr
      · simpa using he
      · exact ih h hr

theorem Directive.take_of_undirected {attrs : Attrs} (h : attrs.Undirected) (d : Directive)
    (tag : String) : d.take tag attrs = ⟨none, attrs, []⟩ := by
  obtain ⟨h1, h2⟩ := h d (by cases d <;> simp)
  rw [take, h1, h2, Attrs.erase_of_get?_eq_none h1, Attrs.erase_of_get?_eq_none h2]
  simp [Attrs.has, h1]

theorem Directive.discard_of_undirected {attrs : Attrs} (h : attrs.Undirected) (d : Directive)
    (tag : String) : d.discard tag attrs = (attrs, []) := by
  simp [discard, take_of_undirected h]

namespace Walk

theorem takeBoth_of_undirected {attrs : Attrs} (h : attrs.Undirected) (tag : String) :
    takeBoth tag attrs = ⟨none, false, attrs, []⟩ := by
  simp [takeBoth, Directive.take_of_undirected h]

theorem enterElement_of_undirected {attrs : Attrs} (h : attrs.Undirected) (tag : String)
    (s : State) : enterElement tag attrs s = ⟨attrs, none, s.resolve attrs⟩ := by
  simp [enterElement, rejectDirectives, Directive.discard_of_undirected h,
    Directive.take_of_undirected h]

theorem enterList_of_undirected {attrs : Attrs} (h : attrs.Undirected) (d : Defaults)
    (kind : ElementKind) (tag : String) (s : State) :
    enterList d kind tag attrs s =
      match s.listTemplate? d kind with
      | none => (attrs, none, s.resolve attrs)
      | some template =>
        (attrs, some { series := s.scope.roster.series.size },
          State.resolve
            { s with
              scope := s.scope.started kind template
                (template.template.segment.parent.bind s.scope.find?) d.styled } attrs) := by
  rw [enterList]
  simp only [Directive.take_of_undirected h, Directive.discard_of_undirected h, List.append_nil,
    State.warn_nil, State.templateOfList_none]
  cases s.listTemplate? d kind with
  | none => simp [enterElement_of_undirected h]
  | some template => simp [State.start_eq]

theorem enterList_bare_of_undirected {attrs attrs' : Attrs} (h : attrs.Undirected) {d : Defaults}
    {kind : ElementKind} {tag : String} {s s' : State}
    (he : enterList d kind tag attrs s = (attrs', none, s')) :
    s.listTemplate? d kind = none ∧ attrs' = attrs ∧ s' = s.resolve attrs := by
  rw [enterList_of_undirected h] at he
  cases ht : s.listTemplate? d kind with
  | none =>
    rw [ht] at he
    cases he
    exact ⟨rfl, rfl, rfl⟩
  | some template =>
    rw [ht] at he
    cases he

theorem enterList_started_of_undirected {attrs attrs' : Attrs} (h : attrs.Undirected) {d : Defaults}
    {kind : ElementKind} {tag : String} {l : ListState} {s s' : State}
    (he : enterList d kind tag attrs s = (attrs', some l, s')) :
    ∃ template, s.listTemplate? d kind = some template ∧ attrs' = attrs ∧
      l = { series := s.scope.roster.series.size } ∧
      s' = State.resolve
        { s with
          scope := s.scope.started kind template
            (template.template.segment.parent.bind s.scope.find?) d.styled } attrs := by
  rw [enterList_of_undirected h] at he
  cases ht : s.listTemplate? d kind with
  | none =>
    rw [ht] at he
    cases he
  | some template =>
    rw [ht] at he
    cases he
    exact ⟨template, rfl, rfl, rfl, rfl⟩

theorem enterItem_of_undirected {attrs : Attrs} (h : attrs.Undirected) (d : Defaults)
    (kind : ElementKind) (l : ListState) (tag : String) (s : State) :
    enterItem d kind l tag attrs s = drawItem d l attrs s := by
  simp [enterItem, takeBoth_of_undirected h]

@[simp] theorem series_drawItem (d : Defaults) (l : ListState) (attrs : Attrs) (s : State) :
    (drawItem d l attrs s).2.series = l.series := rfl

@[simp] theorem scope_drawItem (d : Defaults) (l : ListState) (attrs : Attrs) (s : State) :
    (drawItem d l attrs s).1.state.scope = s.scope.increment l.series := by
  simp [drawItem]

@[simp] theorem failure_drawItem (d : Defaults) (l : ListState) (attrs : Attrs) (s : State) :
    (drawItem d l attrs s).1.state.failure = s.failure := by
  simp [drawItem]

theorem leaveItem_of_running {s : State} (h : s.failure = none) (l : ListState) :
    leaveItem l s = s.endBelow l.series := by
  simp [leaveItem, State.isStopped, h]

theorem leaveList_of_running {s : State} (h : s.failure = none) (l : ListState) :
    leaveList l s = { s with scope := s.scope.remove l.series } := by
  simp [leaveList, State.isStopped, h]

end Walk
end Rubric
