import Rubric.Proofs.Labelling.Changes
import Rubric.Proofs.Labelling.Recursion
import Rubric.Proofs.Scope.Sound
import Rubric.Proofs.Template.Sharing

/-!
# What a run does, step by step

* `State.Offers d s i` : the templates that a series may start with;
* `State.Step d s s'` : one change of the scope or of the sources. All else may change freely;
* `State.Steps d s s'` : any number of them in a row;
* `walk_steps`, `walkAll_steps`, `walkItems_steps` : a walk is made of such steps.
-/

namespace Rubric
namespace State

/-- The templates that a series may start with: that of a directive, that of the next level below
another series, and those of the settings. -/
inductive Offers (d : Defaults) (s : State) (i : Template.Instance) : Prop where
  | directive (h : s.context.Holds i)
  | child {id : SeriesId} {v : Series} (hv : s.scope.roster.view? id = some v)
      (h : v.template.child? = some i)
  | heading (h : d.heading = some i)
  | list {kind : ElementKind} (h : d.list kind = some i)

/-- One change of the scope or of the sources. -/
inductive Step (d : Defaults) : State → State → Prop where
  | keep {s s' : State} (hscope : s'.scope = s.scope) (hcontext : s'.context = s.context) :
      Step d s s'
  | read {s : State} (tag : String) (source : Option String) :
      Step d s (s.readDirective tag source).2
  | shrink {s : State} {scope : Scope} {gone : List SeriesId} (h : s.scope.Shrinks scope gone) :
      Step d s { s with scope }
  | increment {s : State} (id : SeriesId) : Step d s (s.increment id)
  | start {s : State} {kind : ElementKind} {template : Template.Instance} {styled : Bool}
      (h : s.Offers d template) : Step d s (s.start kind template styled).2
  | replace {s : State} {old : SeriesId} {kind : ElementKind} {template : Template.Instance}
      {styled : Bool} (h : s.Offers d template) : Step d s (s.replace old kind template styled).2

/-- Any number of changes in a row. -/
inductive Steps (d : Defaults) : State → State → Prop where
  | refl (s : State) : Steps d s s
  | more {s s' s'' : State} (h : Step d s s') (t : Steps d s' s'') : Steps d s s''

variable {d : Defaults} {s s' s'' : State}

theorem Step.one (h : Step d s s') : Steps d s s' := .more h (.refl _)

theorem Steps.trans (h : Steps d s s') (h' : Steps d s' s'') : Steps d s s'' := by
  induction h with
  | refl => exact h'
  | more step _ ih => exact .more step (ih h')

theorem Steps.keep (hscope : s'.scope = s.scope) (hcontext : s'.context = s.context) :
    Steps d s s' := (Step.keep hscope hcontext).one

theorem Steps.preserves {P : State → Prop} (hP : ∀ s s', Step d s s' → P s → P s')
    (h : Steps d s s') (hs : P s) : P s' := by
  induction h with
  | refl => exact hs
  | more step _ ih => exact ih (hP _ _ step hs)

/-! ## What only grows -/

theorem extends_readDirective (s : State) (tag : String) (source : Option String) :
    s.context.Extends (s.readDirective tag source).2.context :=
  s.context.extends_read (.directive tag) source

theorem holds_readDirective {tag : String} {source : Option String} {i : Template.Instance}
    (h : s.readDirective tag source = (.ok (some i), s')) : s'.context.Holds i := by
  have hread : s.context.read (.directive tag) source = (.ok (some i), s'.context) := by
    obtain ⟨h1, h2⟩ := Prod.mk.inj h
    rw [← h2]
    exact Prod.ext h1 rfl
  cases source with
  | none => cases hread
  | some source =>
    rw [Template.Context.read] at hread
    split at hread
    · rename_i heq
      cases hread
      exact Template.Context.holds_parse heq
    · cases hread

theorem Step.grows (h : Step d s s') : s.scope.roster.Grows s'.scope.roster := by
  cases h with
  | keep hscope _ =>
    rw [hscope]
    exact .refl _
  | read => exact .refl _
  | shrink h => exact .of_view_eq h.view h.keys
  | increment id => exact Roster.grows_increment ..
  | start =>
    rw [start_eq]
    exact Roster.grows_create ..
  | @replace old kind template styled =>
    rw [replace_eq]
    obtain ⟨gone, hsh, -⟩ := Scope.shrinks_replace (s.scope.create kind template
      ((s.scope.roster.get? old).bind Series.parent) styled).2 old s.scope.roster.series.size
    exact (Roster.grows_create ..).trans (.of_view_eq hsh.view hsh.keys)

theorem Steps.grows (h : Steps d s s') : s.scope.roster.Grows s'.scope.roster := by
  induction h with
  | refl => exact .refl _
  | more step _ ih => exact step.grows.trans ih

theorem Step.extends (h : Step d s s') : s.context.Extends s'.context := by
  cases h with
  | keep _ hcontext =>
    rw [hcontext]
    exact .refl _
  | read tag source => exact extends_readDirective ..
  | shrink => exact .refl _
  | increment => exact .refl _
  | start =>
    rw [start_eq]
    exact .refl _
  | replace =>
    rw [replace_eq]
    exact .refl _

theorem Steps.extends (h : Steps d s s') : s.context.Extends s'.context := by
  induction h with
  | refl => exact .refl _
  | more step _ ih => exact step.extends.trans ih

theorem Step.sound (h : Step d s s') (hs : s.scope.Sound) : s'.scope.Sound := by
  cases h with
  | keep hscope _ => rwa [hscope]
  | read => exact hs
  | shrink h => exact hs.shrinks h
  | increment id => exact hs.increment id
  | start =>
    rw [start_eq]
    exact hs.start _ _ _ fun _ => Scope.mem_of_selected
  | replace =>
    rw [replace_eq]
    exact hs.replace ..

theorem Steps.sound (h : Steps d s s') (hs : s.scope.Sound) : s'.scope.Sound :=
  h.preserves (P := fun s => s.scope.Sound) (fun _ _ step => step.sound) hs

theorem sound_begin (c : Template.Context) (n : Draft) : (Labelling.begin c n).scope.Sound where
  linked _ _ h := by simp [Labelling.begin, Roster.children, Roster.get?] at h
  older _ _ _ h := by simp [Labelling.begin, Roster.view?, Roster.get?] at h
  has _ h := by simp [Labelling.begin] at h

end State

/-! ## The walk -/

section Walk
open State Walk
variable (d : Defaults)

theorem steps_warn (s : State) (ws : List Warning) : Steps d s (s.warn ws) := .keep rfl rfl

theorem steps_resolve (s : State) (attrs : Attrs) : Steps d s (s.resolve attrs) :=
  .keep (by simp) (by simp)

theorem steps_stop (s : State) (e : LabelError) : Steps d s (s.stop e) := .keep rfl rfl

theorem offers_childTemplate {s : State} {kind : ElementKind} {i : Template.Instance}
    (h : s.childTemplate? kind = some i) : s.Offers d i := by
  obtain ⟨outer, -, h⟩ := Option.bind_eq_some_iff.1 h
  obtain ⟨series, hseries, h⟩ := Option.bind_eq_some_iff.1 h
  exact .child (Roster.view?_of_get? hseries) h

theorem offers_headingTemplate {s : State} {level : HeadingLevel}
    {directive : Option Template.Instance} {i : Template.Instance}
    (hdirective : ∀ t, directive = some t → s.context.Holds t)
    (h : s.headingTemplate d level directive = some i) : s.Offers d i := by
  rw [State.headingTemplate] at h
  cases directive with
  | some t =>
    cases h
    exact .directive (hdirective _ rfl)
  | none =>
    cases hchild : level.outer?.bind fun l => s.childTemplate? (.heading l) with
    | some child =>
      rw [hchild] at h
      cases h
      obtain ⟨l, -, hl⟩ := Option.bind_eq_some_iff.1 hchild
      exact offers_childTemplate d hl
    | none =>
      rw [hchild] at h
      by_cases hlevel : level = d.level
      · rw [if_pos hlevel] at h
        exact .heading h
      · rw [if_neg hlevel] at h
        cases h

theorem headingSeries_steps (level : HeadingLevel) (source : Option String) (s : State) :
    Steps d s (s.headingSeries d level source).2 := by
  have hread := (Step.read (d := d) (s := s) level.tag source).one
  rw [State.headingSeries]
  split <;> rename_i hr <;> rw [hr] at hread
  · exact hread
  · split
    · exact hread
    · exact hread.trans (Step.replace (.directive (holds_readDirective hr))).one
    · split
      · exact hread
      · rename_i ht
        refine hread.trans (Step.start (offers_headingTemplate d ?_ ht)).one
        rintro t rfl
        exact holds_readDirective hr

theorem enterHeading_steps (level : HeadingLevel) (tag : String) (attrs : Attrs) (s : State) :
    Steps d s (enterHeading d level tag attrs s).state := by
  obtain ⟨gone, hsh, -⟩ := Scope.shrinks_closeBelow s.scope level
  rw [enterHeading]
  generalize takeBoth tag attrs = ds
  have hclose : Steps d s (State.warn { s with scope := s.scope.closeBelow level } ds.warnings) :=
    (Step.shrink hsh).one.trans (steps_warn d _ _)
  generalize State.warn { s with scope := s.scope.closeBelow level } ds.warnings = s' at hclose
  by_cases hsup : ds.suppressed
  · rw [if_pos hsup]
    exact hclose.trans ((steps_warn d _ _).trans (steps_resolve d _ _))
  · rw [if_neg hsup]
    have hseries := hclose.trans (headingSeries_steps d level ds.source s')
    split <;> rename_i hr <;> rw [hr] at hseries
    · exact hseries.trans (steps_stop d _ _)
    · exact hseries.trans (steps_resolve d _ _)
    · exact hseries.trans ((Step.increment _).one.trans (steps_resolve d _ _))

theorem enterElement_steps (tag : String) (attrs : Attrs) (s : State) :
    Steps d s (enterElement tag attrs s).state :=
  (steps_warn d _ _).trans (steps_resolve d _ _)

theorem offers_templateOfList {s s' : State} {kind : ElementKind} {tag : String}
    {source : Option String} {i : Template.Instance}
    (h : s.templateOfList d kind tag source = (.ok (some i), s')) : s'.Offers d i := by
  rw [State.templateOfList] at h
  split at h
  · split at h
    · obtain ⟨hchild, rfl⟩ := Prod.mk.inj h
      exact offers_childTemplate d (Except.ok.inj hchild)
    · obtain ⟨hlist, rfl⟩ := Prod.mk.inj h
      exact .list (Except.ok.inj hlist)
  · exact .directive (holds_readDirective h)

theorem templateOfList_steps (s : State) (kind : ElementKind) (tag : String)
    (source : Option String) : Steps d s (s.templateOfList d kind tag source).2 := by
  have hread := (Step.read (d := d) (s := s) tag source).one
  rw [State.templateOfList]
  split
  · rename_i hr
    rwa [hr] at hread
  · exact hread

theorem enterList_steps (kind : ElementKind) (tag : String) (attrs : Attrs) (s : State) :
    Steps d s (enterList d kind tag attrs s).2.2 := by
  rw [enterList]
  generalize Directive.label.take tag attrs = label
  generalize Directive.noLabel.discard tag label.attrs = left
  have hwarn := steps_warn d s (label.warnings ++ left.2)
  have htemplate := hwarn.trans
    (templateOfList_steps d (s.warn (label.warnings ++ left.2)) kind tag label.value)
  dsimp only
  split <;> rename_i hr <;> rw [hr] at htemplate
  · exact htemplate.trans (steps_stop d _ _)
  · exact htemplate.trans (enterElement_steps d tag left.1 _)
  · exact htemplate.trans ((Step.start (offers_templateOfList d hr)).one.trans (steps_resolve d _ _))

theorem steps_of_enterList {d : Defaults} {kind : ElementKind} {tag : String} {attrs attrs' : Attrs}
    {l : Option ListState} {s s' : State} (he : enterList d kind tag attrs s = (attrs', l, s')) :
    Steps d s s' := by
  have hsteps := enterList_steps d kind tag attrs s
  rwa [he] at hsteps

theorem drawItem_steps (l : ListState) (attrs : Attrs) (s : State) :
    Steps d s (drawItem d l attrs s).1.state := by
  rw [drawItem]
  exact (Step.increment l.series).one.trans (.keep (by simp) (by simp))

theorem enterItem_steps (kind : ElementKind) (l : ListState) (tag : String) (attrs : Attrs)
    (s : State) : Steps d s (enterItem d kind l tag attrs s).1.state := by
  rw [enterItem]
  generalize takeBoth tag attrs = ds
  have hwarn := steps_warn d s ds.warnings
  generalize s.warn ds.warnings = s' at hwarn
  by_cases hsup : ds.suppressed
  · rw [if_pos hsup]
    exact hwarn.trans ((steps_warn d _ _).trans (steps_resolve d _ _))
  · rw [if_neg hsup]
    have hread := hwarn.trans (Step.read (d := d) (s := s') tag ds.source).one
    split <;> rename_i hr <;> rw [hr] at hread
    · exact hread.trans (steps_stop d _ _)
    · exact hread.trans (drawItem_steps d l ds.attrs _)
    · exact hread.trans ((Step.replace (.directive (holds_readDirective hr))).one.trans
        (drawItem_steps d _ ds.attrs _))

theorem leaveItem_steps (l : ListState) (s : State) : Steps d s (leaveItem l s) := by
  rw [leaveItem]
  split
  · exact .refl s
  · obtain ⟨gone, hsh, -⟩ := Scope.shrinks_endBelow s.scope l.series
    exact (Step.shrink hsh).one

theorem leaveList_steps (l : ListState) (s : State) : Steps d s (leaveList l s) := by
  rw [leaveList]
  split
  · exact .refl s
  · exact (Step.shrink (Scope.shrinks_remove s.scope l.series)).one

end Walk

namespace Draft
open State Walk
variable (d : Defaults)

/-- Each part of a walk is made of steps if the parts of that are. -/
theorem steps_cases : WalkCases d (fun n s => Steps d s (walk d n s).2)
    (fun ns s => Steps d s (walkAll d ns s).2) fun kind ns l s => Steps d s (walkItems d kind ns l s).2.2 where
  stopped n s h := by
    rw [walk_stopped h]
    exact .refl s
  leaf n s _ hn := by
    rw [walk_leaf hn]
    exact .refl s
  heading level tag attrs label children s h hk := by
    rw [walk_heading h hk]
    exact enterHeading_steps d level tag attrs s
  other tag attrs label children s h hk hchildren := by
    rw [walk_other h hk]
    exact (enterElement_steps d tag attrs s).trans hchildren
  bareList kind tag attrs attrs' label children s s' h hk hlist he hchildren := by
    have henter := steps_of_enterList he
    rw [walk_bareList h hk hlist he]
    exact henter.trans hchildren
  list kind tag attrs attrs' label children l s s' h hk hlist he hchildren := by
    have henter := steps_of_enterList he
    rw [walk_list h hk hlist he]
    exact henter.trans (hchildren.trans (leaveList_steps d _ _))
  nil s := by
    rw [walkAll_nil]
    exact .refl s
  cons n rest s hn hrest := by
    rw [walkAll_cons]
    exact hn.trans hrest
  itemsStopped kind ns l s h := by
    rw [walkItems_stopped h]
    exact .refl s
  itemsNil kind l s _ := by
    rw [walkItems_nil]
    exact .refl s
  itemsLeaf kind n rest l s _ hn hrest := by
    rw [walkItems_leaf hn]
    exact hrest
  item kind attrs label content rest l s h hcontent hrest := by
    rw [walkItems_item h]
    exact (enterItem_steps d kind l "li" attrs s).trans (hcontent.trans ((leaveItem_steps d _ _).trans hrest))
  itemsOther kind tag attrs label content rest l s h hli hn hrest := by
    rw [walkItems_other h hli]
    exact hn.trans hrest

/-- The walk over a node is made of steps. -/
theorem walk_steps (n : Draft) (s : State) : Steps d s (walk d n s).2 := (steps_cases d).walk n s

/-- The walk over nodes in a row is made of steps. -/
theorem walkAll_steps (ns : List Draft) (s : State) : Steps d s (walkAll d ns s).2 :=
  (steps_cases d).walkAll ns s

/-- The walk over the children of a list is made of steps. -/
theorem walkItems_steps (kind : ElementKind) (ns : List Draft) (l : ListState) (s : State) :
    Steps d s (walkItems d kind ns l s).2.2 := (steps_cases d).walkItems kind ns l s

end Draft
end Rubric
