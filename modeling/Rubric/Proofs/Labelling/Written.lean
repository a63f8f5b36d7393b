import Rubric.Proofs.Labelling.Stack
import Rubric.Proofs.Stylesheet.Repeats

/-!
# What is written on an element

* `Segment.write` : a label from its segment, the label in front and the number;
* `Roster.text_write` : so the label of a series is written;
* `Moment.label?` : the text that an event puts in front of its element; `Moment.label?_eq` : that of the
  series in which the element is numbered;
* `Scope.opened` : a scope with a new series, in the place of another one or innermost;
* `Moment.current?`, `directive?` : the series that numbers an element without a directive, and the template
  that the element asks for;
* `Moment.opened_of_directive` : a template that an element asks for starts a series for it.
-/

namespace Rubric

/-- A label: a number behind the label of an outer series, if there is one. -/
def Segment.write (s : Segment) (outer : String) (n : Nat) : String :=
  s.before ++
    s.style.elim "" (fun style =>
      if outer.isEmpty then style.format n else outer ++ s.separator ++ style.format n) ++
    s.after

namespace Roster

/-- The label that a parent puts in front. -/
def core (r : Roster) (parent : Option SeriesId) : String := parent.elim "" r.bareText

theorem text_write {r : Roster} {id : SeriesId} {v : Series} (hv : r.view? id = some v)
    (hparent : ∀ p, v.parent = some p → p < id) :
    r.text id = v.segment.write (r.core v.parent) v.count := by
  rw [text_eq, bareText_eq, hv, Option.elim_some, Segment.write, core]
  dsimp only
  cases v.segment.style with
  | none => rfl
  | some style =>
    cases hp : v.parent with
    | none => rfl
    | some p =>
      dsimp only [Option.elim_some]
      rw [if_pos (hparent p hp)]
      rfl

end Roster

/-! ## The text of a label -/

namespace Walk
variable {d : Defaults}

/-- The text that an event puts in front of its element. -/
def Event.label? (d : Defaults) : Event → State → Option String
  | heading level tag attrs, s => (enterHeading d level tag attrs s).label
  | item kind l attrs, s => (enterItem d kind l "li" attrs s).1.label
  | list .., _ | element .., _ | leaveItem _, _ | leaveList _, _ => none

theorem label_enterHeading (level : HeadingLevel) (tag : String) (attrs : Attrs) (s : State) :
    (enterHeading d level tag attrs s).label =
      (headingLabelled? d level tag attrs s).map (enterHeading d level tag attrs s).state.scope.roster.text := by
  rw [headingLabelled?]
  cases hsup : (takeBoth tag attrs).suppressed with
  | true =>
    rw [enterHeading_unlabelled hsup]
    rfl
  | false =>
    rcases hseries : (closed level tag attrs s).headingSeries d level (takeBoth tag attrs).source
      with ⟨e | _ | id, s'⟩
    · rw [enterHeading_failed hsup hseries]
      rfl
    · rw [enterHeading_bare hsup hseries]
      rfl
    · rw [enterHeading_labelled hsup hseries, State.scope_resolve]
      rfl

theorem label_enterItem (hd : d.styled = false) (kind : ElementKind) (l : ListState) (attrs : Attrs)
    (s : State) :
    (enterItem d kind l "li" attrs s).1.label =
      (itemLabelled? d kind l attrs s).map (enterItem d kind l "li" attrs s).1.state.scope.roster.text := by
  have hdrawn : ∀ (l' : ListState) (attrs : Attrs) (s : State), (drawItem d l' attrs s).1.label =
      some ((drawItem d l' attrs s).1.state.scope.roster.text (drawItem d l' attrs s).2.series) := by
    intro l' attrs s
    rw [scope_drawItem, series_drawItem]
    exact (drawItem_text hd l' attrs s).2
  rw [itemLabelled?]
  cases hsup : (takeBoth "li" attrs).suppressed with
  | true =>
    rw [enterItem_unlabelled hsup]
    rfl
  | false =>
    rw [if_neg (by simp)]
    rcases hread : (s.warn (takeBoth "li" attrs).warnings).readDirective "li" (takeBoth "li" attrs).source
      with ⟨e | _ | template, s'⟩
    · rw [enterItem_failed hsup hread]
      rfl
    · rw [enterItem_drawn hsup hread]
      exact hdrawn l _ s'
    · rw [enterItem_replaced hsup hread]
      exact hdrawn _ _ _

end Walk

/-- The text that the event puts in front of its element. -/
def Moment.label? (m : Moment) : Option String := m.event.label? m.defaults m.before

/-- An element shows the label of the series in which it is numbered. -/
theorem Moment.label?_eq {m : Moment} (hd : m.defaults.styled = false) :
    m.label? = m.labelled?.map m.after.scope.roster.text := by
  obtain ⟨d, s, e⟩ := m
  cases e with
  | heading level tag attrs => exact Walk.label_enterHeading level tag attrs s
  | item kind l attrs => exact Walk.label_enterItem hd kind l attrs s
  | list | element | leaveItem | leaveList => rfl

/-! ## A new series -/

namespace Scope
variable {s : Scope} {kind : ElementKind} {template : Template.Instance} {styled : Bool}

/-- The parent of a new series: that of the series in whose place it comes, or else the one that its segment
selects. -/
def parentFor (s : Scope) (old : Option SeriesId) (segment : Segment) : Option SeriesId :=
  match old with
  | some old => s.roster.parent? old
  | none => segment.parent.bind s.find?

/-- A new series, in the place of another one or innermost. -/
def opened (s : Scope) (old : Option SeriesId) (kind : ElementKind) (template : Template.Instance)
    (styled : Bool) : Scope :=
  match old with
  | some old => s.replaced old kind template styled
  | none => s.started kind template (s.parentFor none template.template.segment) styled

theorem view?_opened (s : Scope) (old : Option SeriesId) (kind : ElementKind) (template : Template.Instance)
    (styled : Bool) (j : SeriesId) :
    (s.opened old kind template styled).roster.view? j =
      if j = s.roster.series.size then
        some (s.roster.newSeries kind template (s.parentFor old template.template.segment) styled)
      else s.roster.view? j := by
  cases old with
  | none => exact view?_started ..
  | some old =>
    obtain ⟨gone, hpr, -⟩ := prunes_replaced old kind template styled s
    exact (hpr.view j).trans (Roster.view?_create ..)

theorem view?_opened_first (s : Scope) (old : Option SeriesId) (kind : ElementKind)
    (template : Template.Instance) (styled : Bool) :
    ((s.opened old kind template styled).increment s.roster.series.size).roster.view? s.roster.series.size =
      some { s.roster.newSeries kind template (s.parentFor old template.template.segment) styled with
        count := 1 } := by
  rw [increment, Roster.view?_increment, view?_opened, if_pos rfl, Option.map_some]
  show some (if _ = _ then _ else _) = _
  rw [if_pos rfl]
  rfl

end Scope

/-! ## Directives of elements -/

def Request.source? : Request → Option String
  | restart source => some source
  | next | silent => none

namespace Walk
open State
variable {d : Defaults}

/-- The template that the element of an event asks for. -/
def Event.directive? : Event → Option String
  | heading _ _ attrs | item _ _ attrs => attrs.request.source?
  | list .. | element .. | leaveItem _ | leaveList _ => none

/-- The series that numbers the element of an event if it has no directive. -/
def Event.current? (s : Scope) : Event → Option SeriesId
  | heading level .. => (s.closeBelow level).findKind? (.heading level)
  | item _ l _ => some l.series
  | list .. | element .. | leaveItem _ | leaveList _ => none

theorem readDirective_some {s s' : State} {tag source : String} {template : Option Template.Instance}
    (h : s.readDirective tag (some source) = (.ok template, s')) :
    ∃ t n, Template.parse source = .ok t ∧ template = some ⟨t, n, 0⟩ ∧ s'.scope = s.scope := by
  have hscope := scope_of_readDirective h
  rcases hread : s.context.read (.directive tag) (some source) with ⟨result, c'⟩
  rw [readDirective, hread] at h
  cases h
  obtain ⟨-, -, hsome⟩ := Template.Context.exists_read hread
  obtain ⟨t, n, ht, htemplate, -⟩ := hsome source rfl
  exact ⟨t, n, ht, htemplate, hscope⟩

theorem source_of_request (tag : String) {source : String} {attrs : Attrs}
    (h : attrs.request = .restart source) :
    (takeBoth tag attrs).suppressed = false ∧ (takeBoth tag attrs).source = some source :=
  Attrs.source_of_restart h

theorem headingSeries_some {level : HeadingLevel} {source : String} {template : Template.Instance}
    {s s' : State} (h : s.readDirective level.tag (some source) = (.ok (some template), s')) :
    s.headingSeries d level (some source) =
      (.ok (some s'.scope.roster.series.size),
        { s' with
          scope := s'.scope.opened (s'.scope.findKind? (.heading level)) (.heading level) template false }) := by
  rw [State.headingSeries, h]
  dsimp only
  cases s'.scope.findKind? (.heading level) with
  | some old =>
    dsimp only
    rw [replace_eq]
    rfl
  | none =>
    have htemplate : s'.headingTemplate d level (some template) = some template := rfl
    dsimp only
    rw [htemplate]
    dsimp only
    rw [start_eq]
    rfl

theorem opened_enterHeading {level : HeadingLevel} {tag source : String} {attrs : Attrs} {s : State}
    (hr : attrs.request = .restart source) (hend : (enterHeading d level tag attrs s).state.failure = none) :
    let s' := s.scope.closeBelow level
    ∃ t n, Template.parse source = .ok t ∧
      headingLabelled? d level tag attrs s = some s'.roster.series.size ∧
      (enterHeading d level tag attrs s).state.scope =
        (s'.opened (s'.findKind? (.heading level)) (.heading level) ⟨t, n, 0⟩ false).increment
          s'.roster.series.size := by
  intro s'
  obtain ⟨hsup, hsource⟩ := source_of_request tag hr
  rw [headingLabelled?, hsup, if_neg (by simp)]
  rcases hread : (closed level tag attrs s).readDirective level.tag (some source) with ⟨e | template, s₁⟩
  · have hfailed : (closed level tag attrs s).headingSeries d level (takeBoth tag attrs).source =
        (.error e, s₁) := by rw [hsource, State.headingSeries, hread]
    rw [enterHeading_failed hsup hfailed] at hend
    cases hend
  · obtain ⟨t, n, ht, rfl, hscope⟩ := readDirective_some hread
    have hscope : s₁.scope = s' := hscope
    have hseries := headingSeries_some (d := d) hread
    rw [← hsource] at hseries
    rw [enterHeading_labelled hsup hseries, scope_resolve, hseries, hscope]
    exact ⟨t, n, ht, rfl, rfl⟩

theorem opened_enterItem {kind : ElementKind} {l : ListState} {source : String} {attrs : Attrs} {s : State}
    (hr : attrs.request = .restart source) (hend : (enterItem d kind l "li" attrs s).1.state.failure = none) :
    ∃ t n, Template.parse source = .ok t ∧
      itemLabelled? d kind l attrs s = some s.scope.roster.series.size ∧
      (enterItem d kind l "li" attrs s).1.state.scope =
        (s.scope.opened (some l.series) kind ⟨t, n, 0⟩ d.styled).increment s.scope.roster.series.size := by
  obtain ⟨hsup, hsource⟩ := Attrs.source_of_restart hr
  rw [itemLabelled?, hsup, if_neg (by simp)]
  rcases hread : (s.warn (takeBoth "li" attrs).warnings).readDirective "li" (takeBoth "li" attrs).source
    with ⟨e | template, s'⟩
  · rw [enterItem_failed hsup hread] at hend
    cases hend
  · have hread' := hread
    rw [hsource] at hread'
    obtain ⟨t, n, ht, rfl, hscope⟩ := readDirective_some hread'
    have hscope : s'.scope = s.scope := hscope
    rw [enterItem_replaced hsup hread, scope_drawItem, series_drawItem, replace_eq, hscope]
    exact ⟨t, n, ht, rfl, rfl⟩

end Walk

namespace Moment

def directive? (m : Moment) : Option String := m.event.directive?

/-- The series that numbers the element if it has no directive. -/
def current? (m : Moment) : Option SeriesId := m.event.current? m.before.scope

/-- A template that an element asks for starts a series for it, in the place of the one that would number it
otherwise. -/
theorem opened_of_directive {m : Moment} {source : String} (hsource : m.directive? = some source)
    (hend : m.after.failure = none) :
    ∃ t n kind styled, Template.parse source = .ok t ∧ m.labelled? = some m.lookup.roster.series.size ∧
      m.after.scope = (m.lookup.opened m.current? kind ⟨t, n, 0⟩ styled).increment
        m.lookup.roster.series.size := by
  have hrequest : ∀ attrs : Attrs, attrs.request.source? = some source → attrs.request = .restart source := by
    intro attrs h
    cases hr : attrs.request with
    | next | silent => rw [hr] at h; cases h
    | restart source' =>
      rw [hr] at h
      cases h
      rfl
  obtain ⟨d, s, e⟩ := m
  cases e with
  | list | element | leaveItem | leaveList => cases hsource
  | heading level tag attrs =>
    obtain ⟨t, n, ht, hown, hscope⟩ := Walk.opened_enterHeading (hrequest attrs hsource) hend
    exact ⟨t, n, _, _, ht, hown, hscope⟩
  | item kind l attrs =>
    obtain ⟨t, n, ht, hown, hscope⟩ := Walk.opened_enterItem (hrequest attrs hsource) hend
    exact ⟨t, n, _, _, ht, hown, hscope⟩

end Moment
end Rubric
