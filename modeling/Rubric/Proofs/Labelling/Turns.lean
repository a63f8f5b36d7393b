import Rubric.Proofs.Labelling.Moments

/-!
# What an event does to the scope

* `Moment.labelled?` : the series whose next number an event gives to its element;
* `Walk.Turn s e own s'` : the event `e` leads from the scope `s` to `s'`, and numbers its element in the
  series `own`;
* `Moment.turn` : the event of a moment does one of these things.
-/

namespace Rubric

namespace Walk

def headingLabelled? (d : Defaults) (level : HeadingLevel) (tag : String) (attrs : Attrs) (s : State) :
    Option SeriesId :=
  if (takeBoth tag attrs).suppressed then none
  else
    match (closed level tag attrs s).headingSeries d level (takeBoth tag attrs).source with
    | (.ok id, _) => id
    | (.error _, _) => none

def itemLabelled? (d : Defaults) (kind : ElementKind) (l : ListState) (attrs : Attrs) (s : State) :
    Option SeriesId :=
  if (takeBoth "li" attrs).suppressed then none
  else
    match (s.warn (takeBoth "li" attrs).warnings).readDirective "li" (takeBoth "li" attrs).source with
    | (.ok _, _) => some (enterItem d kind l "li" attrs s).2.series
    | (.error _, _) => none

/-- The series whose next number an event gives to its element. -/
def Event.labelled? (d : Defaults) : Event → State → Option SeriesId
  | heading level tag attrs, s => headingLabelled? d level tag attrs s
  | item kind l attrs, s => itemLabelled? d kind l attrs s
  | list .., _ | element .., _ | leaveItem _, _ | leaveList _, _ => none

/-- What an event does to the scope, and the series in which it numbers its element. -/
inductive Turn (s : Scope) : Event → Option SeriesId → Scope → Prop where
  /-- A heading without a label ends the deeper sections. -/
  | close (level : HeadingLevel) (tag : String) (attrs : Attrs) :
      Turn s (.heading level tag attrs) none (s.closeBelow level)
  /-- A heading counts on. -/
  | count {level : HeadingLevel} {tag : String} {attrs : Attrs} {id : SeriesId}
      (h : (s.closeBelow level).findKind? (.heading level) = some id) :
      Turn s (.heading level tag attrs) (some id) ((s.closeBelow level).increment id)
  /-- A heading with a directive replaces the series of its level. -/
  | restart {level : HeadingLevel} {tag : String} {attrs : Attrs} {old : SeriesId}
      (template : Template.Instance) (h : (s.closeBelow level).findKind? (.heading level) = some old) :
      Turn s (.heading level tag attrs) (some (s.closeBelow level).roster.series.size)
        (((s.closeBelow level).replaced old (.heading level) template false).increment
          (s.closeBelow level).roster.series.size)
  /-- A heading starts a section. -/
  | start {level : HeadingLevel} {tag : String} {attrs : Attrs} (template : Template.Instance)
      (h : (s.closeBelow level).findKind? (.heading level) = none) :
      Turn s (.heading level tag attrs) (some (s.closeBelow level).roster.series.size)
        (((s.closeBelow level).started (.heading level) template
          (template.template.segment.parent.bind (s.closeBelow level).find?) false).increment
          (s.closeBelow level).roster.series.size)
  | bareList (kind : ElementKind) (tag : String) (attrs : Attrs) : Turn s (.list kind tag attrs) none s
  | list {kind : ElementKind} {tag : String} {attrs : Attrs} (template : Template.Instance) (styled : Bool) :
      Turn s (.list kind tag attrs) none
        (s.started kind template (template.template.segment.parent.bind s.find?) styled)
  | element (tag : String) (attrs : Attrs) : Turn s (.element tag attrs) none s
  /-- An item without a label is not counted. -/
  | skip (kind : ElementKind) (l : ListState) (attrs : Attrs) : Turn s (.item kind l attrs) none s
  | countItem (kind : ElementKind) (l : ListState) (attrs : Attrs) :
      Turn s (.item kind l attrs) (some l.series) (s.increment l.series)
  /-- An item with a directive replaces the series of its list. -/
  | restartItem {kind : ElementKind} {l : ListState} {attrs : Attrs} (template : Template.Instance)
      (styled : Bool) :
      Turn s (.item kind l attrs) (some s.roster.series.size)
        ((s.replaced l.series kind template styled).increment s.roster.series.size)
  | leaveItem (l : ListState) : Turn s (.leaveItem l) none (s.endBelow l.series)
  | leaveList (l : ListState) : Turn s (.leaveList l) none (s.remove l.series)

end Walk

/-- The series in which the element of a moment is numbered. -/
def Moment.labelled? (m : Moment) : Option SeriesId := m.event.labelled? m.defaults m.before

namespace Walk
open State
variable {d : Defaults} {s s' : State}

theorem headingSeries_cases {level : HeadingLevel} {source : Option String}
    {result : Except LabelError (Option SeriesId)} (h : s.headingSeries d level source = (result, s')) :
    (s'.scope = s.scope ∧ ∀ id, result = .ok (some id) → s.scope.findKind? (.heading level) = some id) ∨
    (∃ old template, s.scope.findKind? (.heading level) = some old ∧
      result = .ok (some s.scope.roster.series.size) ∧
      s'.scope = s.scope.replaced old (.heading level) template false) ∨
    (∃ template : Template.Instance, s.scope.findKind? (.heading level) = none ∧
      result = .ok (some s.scope.roster.series.size) ∧
      s'.scope = s.scope.started (.heading level) template
        (template.template.segment.parent.bind s.scope.find?) false) := by
  rw [State.headingSeries] at h
  split at h <;> rename_i hread <;> have hscope := scope_of_readDirective hread
  · cases h
    exact Or.inl ⟨hscope, fun id hid => by cases hid⟩
  · rw [hscope] at h
    split at h
    · rename_i hfind
      cases h
      exact Or.inl ⟨hscope, fun id hid => by cases hid; exact hfind⟩
    · rename_i template hfind
      rw [replace_eq] at h
      cases h
      exact Or.inr (Or.inl ⟨_, template, hfind, by rw [hscope], by rw [hscope]⟩)
    · rename_i hfind
      split at h
      · cases h
        exact Or.inl ⟨hscope, fun id hid => by cases hid⟩
      · rename_i template htemplate
        rw [start_eq] at h
        cases h
        exact Or.inr (Or.inr ⟨template, hfind, by rw [hscope], by rw [hscope]⟩)

theorem turn_heading (level : HeadingLevel) (tag : String) (attrs : Attrs) (s : State) :
    Turn s.scope (.heading level tag attrs) (headingLabelled? d level tag attrs s)
      (enterHeading d level tag attrs s).state.scope := by
  rw [headingLabelled?]
  cases hsup : (takeBoth tag attrs).suppressed with
  | true =>
    rw [enterHeading_unlabelled hsup, if_pos rfl, scope_resolve, scope_warn]
    exact .close level tag attrs
  | false =>
    rw [if_neg (by simp)]
    rcases hseries : (closed level tag attrs s).headingSeries d level (takeBoth tag attrs).source
      with ⟨result, s'⟩
    have hcases := headingSeries_cases hseries
    match result with
    | .error e =>
      rw [enterHeading_failed hsup hseries]
      obtain ⟨hscope, -⟩ | ⟨_, _, -, hnone, -⟩ | ⟨_, -, hnone, -⟩ := hcases
      · show Turn s.scope _ none s'.scope
        rw [hscope]
        exact .close level tag attrs
      · cases hnone
      · cases hnone
    | .ok none =>
      rw [enterHeading_bare hsup hseries, scope_resolve]
      obtain ⟨hscope, -⟩ | ⟨_, _, -, hnone, -⟩ | ⟨_, -, hnone, -⟩ := hcases
      · rw [hscope]
        exact .close level tag attrs
      · cases hnone
      · cases hnone
    | .ok (some id) =>
      rw [enterHeading_labelled hsup hseries, scope_resolve, scope_increment]
      obtain ⟨hscope, hfind⟩ | ⟨old, template, hfind, hid, hscope⟩ | ⟨template, hfind, hid, hscope⟩ := hcases
      · rw [hscope]
        exact .count (hfind id rfl)
      · cases hid
        rw [hscope]
        exact .restart template hfind
      · cases hid
        rw [hscope]
        exact .start template hfind

theorem turn_item (kind : ElementKind) (l : ListState) (attrs : Attrs) (s : State) :
    Turn s.scope (.item kind l attrs) (itemLabelled? d kind l attrs s)
      (enterItem d kind l "li" attrs s).1.state.scope := by
  rw [itemLabelled?]
  cases hsup : (takeBoth "li" attrs).suppressed with
  | true =>
    rw [enterItem_unlabelled hsup, if_pos rfl]
    simp only [scope_resolve, scope_warn]
    exact .skip kind l attrs
  | false =>
    rw [if_neg (by simp)]
    rcases hread : (s.warn (takeBoth "li" attrs).warnings).readDirective "li" (takeBoth "li" attrs).source
      with ⟨e | template, s'⟩ <;>
      have hscope : s'.scope = s.scope := scope_of_readDirective (s := s.warn _) hread
    · rw [enterItem_failed hsup hread]
      show Turn s.scope _ none s'.scope
      rw [hscope]
      exact .skip kind l attrs
    · cases template with
      | none =>
        rw [enterItem_drawn hsup hread, scope_drawItem, series_drawItem, hscope]
        exact .countItem kind l attrs
      | some template =>
        rw [enterItem_replaced hsup hread, scope_drawItem, series_drawItem, replace_eq, hscope]
        exact .restartItem template d.styled

theorem turn_list (kind : ElementKind) (tag : String) (attrs : Attrs) (s : State) :
    Turn s.scope (.list kind tag attrs) none (enterList d kind tag attrs s).2.2.scope := by
  rcases he : enterList d kind tag attrs s with ⟨attrs', _ | l, s'⟩
  · rw [scope_enterList_none he]
    exact .bareList kind tag attrs
  · obtain ⟨-, template, hscope⟩ := scope_enterList_some he
    rw [hscope]
    exact .list template d.styled

end Walk

/-- Every event of a walk takes one of the turns. -/
theorem Moment.turn (m : Moment) (h : m.before.failure = none) :
    Walk.Turn m.before.scope m.event m.labelled? m.after.scope := by
  obtain ⟨d, s, e⟩ := m
  cases e with
  | heading level tag attrs => exact Walk.turn_heading level tag attrs s
  | list kind tag attrs => exact Walk.turn_list kind tag attrs s
  | item kind l attrs => exact Walk.turn_item kind l attrs s
  | element tag attrs =>
    show Walk.Turn s.scope _ none (Walk.enterElement tag attrs s).state.scope
    rw [Walk.scope_enterElement]
    exact .element tag attrs
  | leaveItem l =>
    show Walk.Turn s.scope _ none (Walk.leaveItem l s).scope
    rw [Walk.leaveItem_of_running h]
    exact .leaveItem l
  | leaveList l =>
    show Walk.Turn s.scope _ none (Walk.leaveList l s).scope
    rw [Walk.leaveList_of_running h]
    exact .leaveList l

end Rubric
