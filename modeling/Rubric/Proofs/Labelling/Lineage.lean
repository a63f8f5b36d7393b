import Rubric.Proofs.Labelling.OwnLabels
import Rubric.Proofs.Labelling.Written

/-!
# Whose label goes in front

* `Roster.origin?` : the segment and the parent with which a series has started;
* `Turn.opens` : an event starts one series at most, with the parent that it is to have;
* `Lineage` : how a series has come to its parent. It has selected it when it was started, or it has taken the
  place of another series and has the parent of that one;
* `Labelling.label_of_lineage` : a label shows the label of the parent that its series has come to, whatever
  the segment selects at the time.
-/

namespace Rubric

namespace Roster
variable {r : Roster}

/-- The segment and the parent with which a series has started. -/
def origin? (r : Roster) (id : SeriesId) : Option (Segment × Option SeriesId) :=
  (r.view? id).map fun v => (v.segment, v.parent)

theorem origin?_increment (r : Roster) (id j : SeriesId) : (r.increment id).origin? j = r.origin? j := by
  rw [origin?, view?_increment, Option.map_map, origin?]
  apply congrArg (Option.map · _)
  funext v
  show ((if id = j then _ else v : Series).segment, (if id = j then _ else v : Series).parent) = _
  split <;> rfl

theorem parent?_of_origin? {id : SeriesId} {o : Segment × Option SeriesId} (h : r.origin? id = some o) :
    r.parent? id = o.2 := by
  obtain ⟨v, hv, rfl⟩ := Option.map_eq_some_iff.1 h
  rw [parent?_eq, hv]
  rfl

theorem origin?_size (r : Roster) : r.origin? r.series.size = none := by
  have hnone : r.get? r.series.size = none := (get?_eq_none_iff _ _).2 (Nat.lt_irrefl _)
  rw [origin?, view?, hnone]
  rfl

theorem exists_origin? {id : SeriesId} (h : r.Has id) : ∃ o, r.origin? id = some o := by
  obtain ⟨v, hv⟩ := exists_view? h
  exact ⟨_, by rw [origin?, hv]; rfl⟩

end Roster

namespace Scope
variable {s s' : Scope}

theorem Shrinks.origin?_eq {gone : List SeriesId} (h : Shrinks s s' gone) (id : SeriesId) :
    s'.roster.origin? id = s.roster.origin? id := by
  rw [Roster.origin?, h.view, Roster.origin?]

theorem origin?_opened (s : Scope) (old : Option SeriesId) (kind : ElementKind)
    (template : Template.Instance) (styled : Bool) (j : SeriesId) :
    (s.opened old kind template styled).roster.origin? j =
      if j = s.roster.series.size then
        some (template.template.segment, s.parentFor old template.template.segment)
      else s.roster.origin? j := by
  rw [Roster.origin?, view?_opened]
  split <;> rfl

theorem parentFor_shrinks {gone : List SeriesId} (h : Shrinks s s' gone) (old : SeriesId)
    (segment : Segment) : s'.parentFor (some old) segment = s.roster.parent? old :=
  Roster.parent?_congr (h.view old)

end Scope

/-! ## Events -/

namespace Walk
open State Scope

namespace Turn
variable {s s' : Scope} {e : Event} {own : Option SeriesId}

/-- A series behind an event has been there before, or it is the one that the event has started. If it has
come in the place of another one, then it numbers the element. -/
theorem opens (h : Turn s e own s') {id : SeriesId} {o : Segment × Option SeriesId}
    (ho : s'.roster.origin? id = some o) :
    s.roster.origin? id = some o ∨
      s.roster.origin? id = none ∧ o.2 = (e.lookup s).parentFor (e.current? s) o.1 ∧
        ((e.current? s).isSome → own = some id) := by
  obtain ⟨gone, hsh⟩ := e.shrinks_lookup s
  have hold : (e.lookup s).roster.origin? id = s.roster.origin? id := hsh.origin?_eq id
  have hopened : ∀ {old kind template styled}, e.current? s = old →
      (old.isSome → own = some (e.lookup s).roster.series.size) →
      ((e.lookup s).opened old kind template styled).roster.origin? id = some o →
      s.roster.origin? id = some o ∨ s.roster.origin? id = none ∧
        o.2 = (e.lookup s).parentFor (e.current? s) o.1 ∧ ((e.current? s).isSome → own = some id) := by
    intro old kind template styled hcurrent hown ho
    rw [origin?_opened] at ho
    split at ho
    · rename_i hid
      cases ho
      rw [hcurrent, hid]
      exact Or.inr ⟨(hsh.origin?_eq _).symm.trans (Roster.origin?_size _), rfl, hown⟩
    · exact Or.inl (hold.symm.trans ho)
  cases h with
  | close => exact Or.inl (hold.symm.trans ho)
  | count =>
    rw [Scope.increment, Roster.origin?_increment] at ho
    exact Or.inl (hold.symm.trans ho)
  | restart template hfind =>
    rw [Scope.increment, Roster.origin?_increment] at ho
    exact hopened hfind (fun _ => rfl) ho
  | start template hfind =>
    rw [Scope.increment, Roster.origin?_increment] at ho
    exact hopened hfind (fun _ => rfl) ho
  | bareList | element | skip => exact Or.inl ho
  | list template styled => exact hopened rfl (fun h => by cases h) ho
  | countItem =>
    rw [Scope.increment, Roster.origin?_increment] at ho
    exact Or.inl ho
  | restartItem template styled =>
    rw [Scope.increment, Roster.origin?_increment] at ho
    exact hopened rfl (fun _ => rfl) ho
  | leaveItem l =>
    obtain ⟨gone, hsh, -⟩ := shrinks_endBelow s l.series
    exact Or.inl ((hsh.origin?_eq id).symm.trans ho)
  | leaveList l => exact Or.inl (((shrinks_remove s l.series).origin?_eq id).symm.trans ho)

/-- The series that would number an element without a directive, and the one that does, have been started. -/
theorem has_current (e : Event) (hfits : e.Fits s.roster) (hs : s.Sound) {id : SeriesId}
    (h : e.current? s = some id) : s.roster.Has id := by
  cases e with
  | heading level =>
    obtain ⟨gone, hsh, -⟩ := shrinks_closeBelow s level
    exact hs.has id (hsh.mem.1 (findKind?_mem h)).1
  | item kind l attrs =>
    cases h
    obtain ⟨v, hv, -⟩ := hfits.2
    exact Roster.has_of_view? hv
  | list | element | leaveItem | leaveList => cases h

theorem has_own {id : SeriesId} (h : Turn s e (some id) s') (hfits : e.Fits s.roster) (hs : s.Sound) :
    s'.roster.Has id := by
  have hnew : ∀ (t : Scope) (old : Option SeriesId) (kind : ElementKind) (template : Template.Instance)
      (styled : Bool), ((t.opened old kind template styled).increment t.roster.series.size).roster.Has
        t.roster.series.size := by
    intro t old kind template styled
    apply (Roster.grows_increment _ _).has
    exact Roster.has_of_view? ((view?_opened ..).trans (if_pos rfl))
  cases h with
  | @count level =>
    obtain ⟨gone, hsh, -⟩ := shrinks_closeBelow s level
    apply (Roster.grows_increment _ _).has
    rename_i hfind
    exact (hs.shrinks hsh).has id (findKind?_mem hfind)
  | @restart level tag attrs old template => exact hnew _ (some old) _ template false
  | start template => exact hnew _ none _ template false
  | countItem => exact (Roster.grows_increment _ _).has (has_current _ hfits hs rfl)
  | @restartItem kind l attrs template styled => exact hnew _ (some l.series) _ template styled

end Turn

variable {d : Defaults}

/-- Without a directive an element is numbered in the series that is there for it, if there is one. -/
theorem headingLabelled?_plain {level : HeadingLevel} {tag : String} {attrs : Attrs} {s : State}
    {own old : SeriesId} (hplain : attrs.request.source? = none)
    (hfind : (s.scope.closeBelow level).findKind? (.heading level) = some old)
    (hown : headingLabelled? d level tag attrs s = some own) : own = old := by
  rw [headingLabelled?] at hown
  cases hr : attrs.request with
  | restart source =>
    rw [hr] at hplain
    cases hplain
  | silent =>
    have hsup : (takeBoth tag attrs).suppressed = true := Attrs.suppressed_of_silent hr
    rw [if_pos hsup] at hown
    cases hown
  | next =>
    obtain ⟨hsup, hsource⟩ : (takeBoth tag attrs).suppressed = false ∧ (takeBoth tag attrs).source = none :=
      Attrs.source_of_next hr
    have hfind : (closed level tag attrs s).scope.findKind? (.heading level) = some old := hfind
    rw [hsup, if_neg (by simp), hsource, headingSeries_none, hfind] at hown
    cases hown
    rfl

theorem itemLabelled?_plain {kind : ElementKind} {l : ListState} {attrs : Attrs} {s : State}
    {own : SeriesId} (hplain : attrs.request.source? = none)
    (hown : itemLabelled? d kind l attrs s = some own) : own = l.series := by
  rw [itemLabelled?] at hown
  cases hr : attrs.request with
  | restart source =>
    rw [hr] at hplain
    cases hplain
  | silent =>
    rw [if_pos (Attrs.suppressed_of_silent hr)] at hown
    cases hown
  | next =>
    obtain ⟨hsup, hsource⟩ := Attrs.source_of_next hr
    have hread : (s.warn (takeBoth "li" attrs).warnings).readDirective "li" (takeBoth "li" attrs).source =
        (.ok none, s.warn (takeBoth "li" attrs).warnings) := by rw [hsource, readDirective_none]
    rw [hsup, if_neg (by simp), hread, enterItem_drawn hsup hread, series_drawItem] at hown
    exact (Option.some.inj hown).symm

end Walk

namespace Moment
open Scope
variable {m : Moment}

/-- The series in whose place the element brings another one. -/
def replaced? (m : Moment) : Option SeriesId := m.directive?.bind fun _ => m.current?

theorem current?_of_plain {own old : SeriesId} (hplain : m.directive? = none) (hold : m.current? = some old)
    (hown : m.labelled? = some own) : own = old := by
  obtain ⟨d, s, e⟩ := m
  cases e with
  | list | element | leaveItem | leaveList => cases hown
  | heading level tag attrs => exact Walk.headingLabelled?_plain hplain hold hown
  | item kind l attrs =>
    cases hold
    exact Walk.itemLabelled?_plain hplain hown

/-- The series that a segment selects where the event looks for series. -/
def selected (m : Moment) (segment : Segment) : Option SeriesId := segment.parent.bind m.lookup.find?

/-- The event starts a series that shows a segment. -/
def Opens (m : Moment) (id : SeriesId) (segment : Segment) : Prop :=
  m.before.scope.roster.origin? id = none ∧
    ∃ parent, m.after.scope.roster.origin? id = some (segment, parent)

end Moment

/-- How a series has come to its parent: when it was started in no other's place, its segment has selected the
parent among the series in scope; in the place of another series it has the parent of that one. -/
inductive Lineage (ms : List Moment) : SeriesId → Option SeriesId → Prop where
  | started {m : Moment} {id : SeriesId} {segment : Segment} (hm : m ∈ ms) (hnew : m.Opens id segment)
      (h : m.replaced? = none) : Lineage ms id (m.selected segment)
  | replaced {m : Moment} {id old : SeriesId} {segment : Segment} {parent : Option SeriesId} (hm : m ∈ ms)
      (hnew : m.Opens id segment) (h : m.replaced? = some old) (hold : Lineage ms old parent) :
      Lineage ms id parent

/-- An event carries on how the series have come to their parents. -/
theorem Moment.lineage {m : Moment} {ms : List Moment} (hm : m ∈ ms) (hrun : m.before.failure = none)
    (hfits : m.event.Fits m.before.scope.roster) (hs : m.before.scope.Sound)
    (h : ∀ id o, m.before.scope.roster.origin? id = some o → Lineage ms id o.2) {id : SeriesId}
    {o : Segment × Option SeriesId} (ho : m.after.scope.roster.origin? id = some o) :
    Lineage ms id o.2 := by
  obtain hbefore | ⟨hnone, hparent, hown⟩ := (m.turn hrun).opens ho
  · exact h id o hbefore
  have hnew : m.Opens id o.1 := ⟨hnone, o.2, ho⟩
  have hparent : o.2 = m.lookup.parentFor m.current? o.1 := hparent
  cases hcurrent : m.current? with
  | none =>
    rw [hcurrent] at hparent
    rw [hparent]
    refine .started hm hnew ?_
    rw [replaced?, hcurrent]
    cases m.directive? <;> rfl
  | some old =>
    have hhas := Walk.Turn.has_current m.event hfits hs hcurrent
    obtain ⟨origin, horigin⟩ := Roster.exists_origin? hhas
    obtain ⟨gone, hsh⟩ := m.event.shrinks_lookup m.before.scope
    have hinherits : o.2 = origin.2 := by
      rw [hparent, hcurrent, ← Roster.parent?_of_origin? horigin]
      exact Scope.parentFor_shrinks hsh old o.1
    rw [hinherits]
    -- without a directive the series in place would number the element, and not a new one
    have hdirective : m.directive? ≠ none := by
      intro hplain
      have hsame := Moment.current?_of_plain hplain hcurrent (hown (Option.isSome_of_eq_some hcurrent))
      rw [hsame, horigin] at hnone
      cases hnone
    obtain ⟨source, hsource⟩ := Option.ne_none_iff_exists'.1 hdirective
    exact .replaced hm hnew (by rw [replaced?, hsource, Option.bind_some, hcurrent]) (h old origin horigin)

/-! ## Runs -/

namespace Labelling
open State Draft
variable (l : Labelling) (c : Template.Context) (doc : Node)

theorem moments_lineage : ∀ m ∈ l.moments c doc, ∀ id o, m.after.scope.roster.origin? id = some o →
    Lineage (l.moments c doc) id o.2 := by
  have hpreserve := l.moments_preserve c doc
    (P := fun s => ∀ id o, s.scope.roster.origin? id = some o → Lineage (l.moments c doc) id o.2)
    (fun c' id o ho => by cases ho) fun m hm hrun h id o =>
      Moment.lineage hm hrun (l.moments_fit c doc m hm) (l.moments_sound c doc m hm).1 h
  intro m hm
  exact (hpreserve m hm).2

theorem styled_moments : ∀ m ∈ l.moments c doc, m.defaults.styled = (l.settings.mode == .css) := by
  rw [moments]
  rcases hread : Defaults.ofSettings c l.settings with ⟨e | d, c'⟩
  · simp
  · intro m hm
    rw [(walk_trace d _ _).defaults_eq m hm]
    exact styled_ofSettings hread

variable {l c doc}

/-- In a run with text labels an element shows its segment with its number, behind the label of the parent of
its series, if there is one. That is the series that the segment selected when the series was started, or, for
one that came in the place of another, the parent of the other. So a template that an element asks for gives
the first label below the series that it selects, just as it would where no series is there for the element,
if that series is the parent of the one in whose place it comes. -/
theorem label_of_lineage {report : LabelReport} (h : (l.apply c doc).result = .ok report)
    (hmode : l.settings.mode = .text) {m : Moment} (hm : m ∈ l.moments c doc) {own : SeriesId}
    (hown : m.labelled? = some own) :
    ∃ v, m.after.scope.roster.view? own = some v ∧
      m.label? = some (v.segment.write (m.after.scope.roster.core v.parent) v.count) ∧
      Lineage (l.moments c doc) own v.parent ∧
      ∀ source, m.directive? = some source →
        v.segment = Segment.ofSource source ∧ v.count = 1 ∧
          (m.replaced? = none → v.parent = m.selected v.segment) ∧
          (∀ old, m.replaced? = some old → v.parent = m.before.scope.roster.parent? old) ∧
          ((∀ old, m.replaced? = some old → m.before.scope.roster.parent? old = m.selected v.segment) →
            m.label? = some (v.segment.write (m.after.scope.roster.core (m.selected v.segment)) 1)) := by
  have hend := l.moments_running_after c doc (running_of_result h) m hm
  have hsound := l.moments_sound c doc m hm
  have hturn := m.turn (l.moments_running c doc m hm)
  rw [hown] at hturn
  obtain ⟨v, hv⟩ := Roster.exists_view? (hturn.has_own (l.moments_fit c doc m hm) hsound.1)
  have horigin : m.after.scope.roster.origin? own = some (v.segment, v.parent) := by
    rw [Roster.origin?, hv]
    rfl
  have hstyled : m.defaults.styled = false := by
    rw [l.styled_moments c doc m hm, hmode]
    rfl
  have hlabel : m.label? = some (v.segment.write (m.after.scope.roster.core v.parent) v.count) := by
    rw [Moment.label?_eq hstyled, hown, Option.map_some, Roster.text_write hv (hsound.2.older own v · hv)]
  refine ⟨v, hv, hlabel, l.moments_lineage c doc m hm own _ horigin, fun source hsource => ?_⟩
  obtain ⟨t, n, kind, styled, ht, hnew, hscope⟩ := Moment.opened_of_directive hsource hend
  have hsegment : Segment.ofSource source = t.segment := by rw [Segment.ofSource, ht]
  -- the element is the first of the new series
  have hfirst : v.segment = t.segment ∧ v.count = 1 ∧ v.parent = m.lookup.parentFor m.current? t.segment := by
    cases hown.symm.trans hnew
    rw [hscope, Scope.view?_opened_first] at hv
    cases hv
    exact ⟨rfl, rfl, rfl⟩
  have hreplaced : m.replaced? = m.current? := by rw [Moment.replaced?, hsource, Option.bind_some]
  obtain ⟨gone, hsh⟩ := m.event.shrinks_lookup m.before.scope
  have hnone : m.replaced? = none → v.parent = m.selected v.segment := by
    intro hnone
    rw [hfirst.2.2, ← hreplaced, hnone, hfirst.1]
    rfl
  have hsome : ∀ old, m.replaced? = some old → v.parent = m.before.scope.roster.parent? old := by
    intro old hold
    rw [hfirst.2.2, ← hreplaced, hold]
    exact Scope.parentFor_shrinks hsh old t.segment
  refine ⟨hfirst.1.trans hsegment.symm, hfirst.2.1, hnone, hsome, fun hsame => ?_⟩
  have hparent : v.parent = m.selected v.segment := by
    cases hold : m.replaced? with
    | none => exact hnone hold
    | some old => exact (hsome old hold).trans (hsame old hold)
  rw [hlabel, hparent, hfirst.2.1]

/-- The second heading of a level asks for a template without a marker, and shows the number of the chapter in
front of its own, as the first one does. -/
theorem label_of_lineage_section :
    let l : Labelling := { settings := { headingLabels := some "1,H.1" } }
    let doc : Node := .root [.element "h1" [] [], .element "h2" [] [], .element "h2" [("-label", "a")] []]
    ∃ m ∈ l.moments {} doc, m.directive? = some "a" ∧ m.replaced? = some 1 ∧
      m.label? = some ((Segment.ofSource "a").write (m.after.scope.roster.bareText 0) 1) := by
  intro l doc
  have hok : (l.apply {} doc).result.toOption.isSome = true := by decide +kernel
  have hheading : ∃ m ∈ l.moments {} doc, m.labelled? = some 2 ∧ m.directive? = some "a" ∧
      m.replaced? = some 1 ∧ m.before.scope.roster.parent? 1 = some 0 := by decide +kernel
  obtain ⟨m, hm, hown, hdirective, hreplaced, hold⟩ := hheading
  cases hresult : (l.apply {} doc).result with
  | error e =>
    rw [hresult] at hok
    cases hok
  | ok report =>
    obtain ⟨v, -, hlabel, -, hsource⟩ := label_of_lineage hresult rfl hm hown
    obtain ⟨hsegment, hcount, -, hparent, -⟩ := hsource "a" hdirective
    refine ⟨m, hm, hdirective, hreplaced, ?_⟩
    rw [hlabel, hsegment, hcount, hparent 1 hreplaced, hold]
    rfl

/-- A template without a marker shows the number of the chapter if it comes behind another section of the
level, and does not if it comes first. -/
theorem label_of_second_section :
    let l : Labelling := { settings := { headingLabels := some "1,H.1" } }
    let first : Node := .root [.element "h1" [] [], .element "h2" [("-label", "a")] []]
    let second : Node := .root [.element "h1" [] [], .element "h2" [] [],
      .element "h2" [("-label", "a")] []]
    (Segment.ofSource "a").parent = none ∧
      (¬∀ m ∈ l.moments {} second, m.directive? = some "a" →
        m.label? = some ((Segment.ofSource "a").write "" 1)) ∧
      (l.moments {} first).filterMap Moment.label? = ["1", "a"] ∧
      (l.moments {} second).filterMap Moment.label? = ["1", "1.1", "1a"] := by
  decide +kernel

end Labelling
end Rubric
