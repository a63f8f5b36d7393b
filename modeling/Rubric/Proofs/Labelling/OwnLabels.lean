import Rubric.Proofs.Labelling.Nesting
import Rubric.Proofs.Labelling.References

/-!
# References to numbered elements

* `Roster.Numbers` : a series that numbers anything;
* `Scope.Foremost` : no such series stands inside of another one;
* `Event.Names` : the selectors that ask for the number of the element itself;
* `Moment.Reaches` : when these find the series of the element; `Moment.find?_iff` : exactly then they do;
* `Moment.reaches_of_clear` : where no list has a heading in it, they always do;
* `Labelling.label?_own` : what references to a numbered element show at the end of a run.
-/

namespace Rubric

def Roster.Numbers (r : Roster) (id : SeriesId) : Prop := (r.get? id).any Series.isNumbered

instance (r : Roster) (id : SeriesId) : Decidable (r.Numbers id) := inferInstanceAs (Decidable (_ = true))

namespace Scope
variable {s : Scope} {id : SeriesId}

/-- No series that numbers anything stands inside of a series in scope. -/
def Foremost (s : Scope) (id : SeriesId) : Prop :=
  ∃ inner outer, s.stack = inner ++ id :: outer ∧ ∀ j ∈ inner, ¬s.roster.Numbers j

theorem selects_any (s : Scope) (id : SeriesId) : s.selects .any id = true ↔ s.roster.Numbers id := by
  rw [selects, Roster.Numbers]
  simp [Selector.matchesKind, Selector.numberedOnly]

theorem find?_any_iff (hnum : s.roster.Numbers id) : s.find? .any = some id ↔ s.Foremost id := by
  rw [find?, List.find?_eq_some_iff_append, Foremost]
  simp only [selects_any, hnum, true_and, Bool.not_eq_true', ← Bool.not_eq_true]

theorem map_fst_sections (h : s.lists = []) : s.sections.map Prod.fst = s.stack := by
  rw [sections, List.map_filterMap]
  refine (List.filterMap_congr fun id hid => ?_).trans List.filterMap_some
  have hlevel := List.filter_eq_nil_iff.1 h id hid
  obtain ⟨l, hl⟩ := Option.ne_none_iff_exists'.1 (mt Option.isNone_iff_eq_none.2 hlevel)
  rw [hl]
  rfl

theorem foremost_of_head {outer : List SeriesId} (h : s.stack = id :: outer) :
    s.Foremost id ∧ id ∈ s.stack :=
  ⟨⟨[], outer, h, by simp⟩, h ▸ List.mem_cons_self ..⟩

end Scope

/-- The selectors that ask for the number of the element itself: those of any series, and of its kind. -/
def Walk.Event.Names : Walk.Event → Selector → Prop
  | heading level _ _, selector => selector = .any ∨ selector = .heading ∨ selector = .level level
  | item .., selector => selector = .any ∨ selector = .list
  | list .., _ | element .., _ | leaveItem _, _ | leaveList _, _ => False

instance : (e : Walk.Event) → (selector : Selector) → Decidable (e.Names selector)
  | .heading .., _ => inferInstanceAs (Decidable (_ ∨ _ ∨ _))
  | .item .., _ => inferInstanceAs (Decidable (_ ∨ _))
  | .list .., _ | .element .., _ | .leaveItem _, _ | .leaveList _, _ => inferInstanceAs (Decidable False)

namespace Moment
open Scope Walk
variable {m : Moment} {own : SeriesId} {selector : Selector}

/-- A selector finds the series of the element behind the event: by level always, as a list if it is in
scope, and as any series if no other that numbers anything stands inside of it. -/
def Reaches (m : Moment) (own : SeriesId) : Selector → Prop
  | .any => m.after.scope.Foremost own
  | .list => own ∈ m.after.scope.stack
  | .heading | .level _ => True

theorem find?_iff (hrun : m.before.failure = none) (hfits : m.event.Fits m.before.scope.roster)
    (hnested : m.event.Nested m.before.scope) (hs : m.before.scope.Sound) (hst : m.before.scope.Stacked)
    (hown : m.labelled? = some own) (hnum : m.after.scope.roster.Numbers own)
    (hnames : m.event.Names selector) :
    m.after.scope.find? selector = some own ↔ m.Reaches own selector := by
  have hturn := m.turn hrun
  rw [hown] at hturn
  obtain ⟨d, s, e⟩ := m
  cases e with
  | list | element | leaveItem | leaveList => cases hnames
  | heading level tag attrs =>
    obtain ⟨hheading, hlevel⟩ := hturn.find?_heading hfits hs hst
    rcases hnames with rfl | rfl | rfl
    · exact find?_any_iff hnum
    · exact iff_of_true hheading trivial
    · exact iff_of_true hlevel trivial
  | item kind l attrs =>
    rcases hnames with rfl | rfl
    · exact find?_any_iff hnum
    · obtain ⟨base, haround⟩ := hnested
      have hlists := lists_enterItem (d := d) hfits.1 "li" attrs hfits.2
      rw [series_of_labelled hown] at hlists
      exact (hturn.around_item hfits hs haround).find?_list_iff hlists.level? ((selects_any _ _).2 hnum)

/-- Where no list has a heading in it, the series of the element is innermost behind the event. -/
theorem reaches_of_clear (hrun : m.before.failure = none) (hend : m.after.failure = none)
    (hfits : m.event.Fits m.before.scope.roster) (hclear : m.event.Clear m.before.scope)
    (hs : m.before.scope.Sound) (hst : m.before.scope.Stacked) (hown : m.labelled? = some own)
    (hnames : m.event.Names selector) : m.Reaches own selector := by
  suffices htop : ∃ outer, m.after.scope.stack = own :: outer by
    obtain ⟨outer, hstack⟩ := htop
    obtain ⟨hforemost, hmem⟩ := foremost_of_head hstack
    cases selector with
    | any => exact hforemost
    | list => exact hmem
    | heading | level => trivial
  have hturn := m.turn hrun
  rw [hown] at hturn
  obtain ⟨d, s, e⟩ := m
  cases e with
  | list | element | leaveItem | leaveList => cases hnames
  | heading level tag attrs =>
    have hlists : (Moment.after ⟨d, s, .heading level tag attrs⟩).scope.lists = [] :=
      List.sublist_nil.1 (hclear ▸ hturn.lists_heading hs)
    obtain ⟨hheading, -⟩ := hturn.find?_heading hfits hs hst
    rw [Scope.find?_heading, ← List.head?_map, map_fst_sections hlists] at hheading
    obtain ⟨outer, hstack⟩ := List.head?_eq_some_iff.1 hheading
    exact ⟨outer, hstack⟩
  | item kind l attrs =>
    obtain ⟨base, hinner⟩ := hclear
    have hswaps := swaps_enterItem hs hinner hend
    rw [series_of_labelled hown] at hswaps
    exact ⟨base, hswaps.inner.stack⟩

end Moment

namespace Labelling
open State

theorem running_of_result {l : Labelling} {c : Template.Context} {doc : Node} {report : LabelReport}
    (h : (l.apply c doc).result = .ok report) : (l.draft c (.ofNode doc)).state.failure = none := by
  rw [apply] at h
  cases hfailure : (l.draft c (.ofNode doc)).state.failure with
  | none => rfl
  | some e =>
    simp only [result, hfailure] at h
    cases h

/-- At the end of a run, a reference to the only element with its id shows the label of the series that its
selector finds behind that element. If the element is numbered and the selector asks for its number, that is
its own series just if it is reached; and always if no list has a heading in it. -/
theorem label?_own (l : Labelling) (c : Template.Context) (doc : Node) {report : LabelReport}
    (h : (l.apply c doc).result = .ok report) {m : Moment} (hm : m ∈ l.moments c doc) {own : SeriesId}
    (hown : m.labelled? = some own) (hnum : m.after.scope.roster.Numbers own) {key : RefKey}
    (hkey : key ∈ references doc) (htarget : m.target? = some key.target)
    (hunique : doc.ids.count key.target = 1) (hnames : m.event.Names key.selector) :
    let shown := (l.draft c (.ofNode doc)).state.refs.label? key
    shown = (m.after.scope.find? key.selector).map m.after.scope.roster.bareText ∧
      (m.after.scope.find? key.selector = some own ↔ m.Reaches own key.selector) ∧
      (doc.BareLists → shown = some (m.after.scope.roster.bareText own)) := by
  intro shown
  have hend := running_of_result h
  have hrun := l.moments_running c doc m hm
  have hfits := l.moments_fit c doc m hm
  have hsound := (l.moments_sound c doc m hm).1
  have hstacked := (l.moments_stacked c doc m hm).1
  have hcount : ((l.moments c doc).filterMap Moment.target?).count key.target ≤ 1 :=
    hunique ▸ (l.targets_moments c doc).count_le key.target
  have hshown : shown = (m.after.scope.find? key.selector).map m.after.scope.roster.bareText :=
    (label?_references hend hkey).trans (Moment.findSome?_of_unique hm htarget hcount)
  have hiff := Moment.find?_iff hrun hfits (l.moments_nested c doc m hm) hsound hstacked hown hnum hnames
  refine ⟨hshown, hiff, fun hdoc => ?_⟩
  have hreaches := Moment.reaches_of_clear hrun (l.moments_running_after c doc hend m hm) hfits
    (l.moments_clear c doc hdoc m hm) hsound hstacked hown hnames
  rw [hshown, hiff.2 hreaches]
  rfl

/-- A link behind a list shows the number of the item that it leads to. -/
theorem label?_own_item :
    let l : Labelling := { settings := { headingLabels := some "1", orderedLabels := some "1" } }
    let doc : Node := .root [.element "h1" [] [], .element "ol" [] [.element "li" [] [],
      .element "li" [("id", "x")] []], .element "a" [("href", "#x")] [.text "##"]]
    ∃ m ∈ l.moments {} doc, m.target? = some "x" ∧ m.labelled? = some 1 ∧
      (l.draft {} (.ofNode doc)).state.refs.label? ⟨"x", .any⟩ =
        some (m.after.scope.roster.bareText 1) := by
  intro l doc
  have hok : (l.apply {} doc).result.toOption.isSome = true := by decide +kernel
  have hitem : ∃ m ∈ l.moments {} doc, m.target? = some "x" ∧ m.labelled? = some 1 ∧
      m.after.scope.roster.Numbers 1 ∧ m.event.Names .any := by decide +kernel
  have hkey : (⟨"x", .any⟩ : RefKey) ∈ references doc := by decide +kernel
  obtain ⟨m, hm, htarget, hown, hnum, hnames⟩ := hitem
  cases hresult : (l.apply {} doc).result with
  | error e =>
    rw [hresult] at hok
    cases hok
  | ok report =>
    obtain ⟨-, -, hshown⟩ := label?_own l {} doc hresult hm hown hnum hkey htarget (by decide) hnames
    exact ⟨m, hm, htarget, hown, hshown (by decide)⟩

/-- A section that starts in an item stands inside of the list from there on. The next item has the number
two, and a reference to it shows the number of the section. -/
theorem label?_own_behind_section :
    let l : Labelling := { settings := { headingLabels := some "1", orderedLabels := some "1" } }
    let doc : Node := .root [.element "ol" [] [.element "li" [] [.element "h1" [] []],
      .element "li" [("id", "x")] []], .element "a" [("href", "#x")] [.text "##"]]
    doc.ids = ["x"] ∧ references doc = [⟨"x", .any⟩] ∧
      ((l.moments {} doc).filterMap fun m =>
        if m.target? = some "x" then m.labelled?.map m.after.scope.roster.bareText else none) = ["2"] ∧
      (l.draft {} (.ofNode doc)).state.refs.label? ⟨"x", .any⟩ = some "1" := by
  decide +kernel

end Labelling
end Rubric
