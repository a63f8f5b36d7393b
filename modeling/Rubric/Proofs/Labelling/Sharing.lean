import Rubric.Labelling.Document
import Rubric.Proofs.Counter.Memo
import Rubric.Proofs.Labelling.Steps
import Rubric.Proofs.Scope.Sharing

/-!
# Runs in contexts with different pasts

What a context was used for before does not show in a run.

* `Defaults.Alike c c' d d'` : settings that have been read in the two contexts;
* `State.Mirrors d d' s t` : states that are equal but for the numbers of sources;
* `mirrors_enterHeading`, `mirrors_enterList`, `mirrors_enterItem` : what is done at an element is the same in
  two such states, and leads to two such states;
* `walk_mirrors` : so does a walk, by `WalkCases`;
* `Context.Use`, `Context.Uses` : reading a template, and labelling a document, any number of times;
* `sharing_unseen` : contexts that come of this label every document in the same way.
-/

namespace Rubric
open Template (Context Instance)

/-- Settings that have been read in two contexts. -/
structure Defaults.Alike (c c' : Context) (d d' : Defaults) : Prop where
  level : d.level = d'.level
  heading : Option.Rel (Instance.Alike c c') d.heading d'.heading
  ordered : Option.Rel (Instance.Alike c c') d.ordered d'.ordered
  unordered : Option.Rel (Instance.Alike c c') d.unordered d'.unordered
  styled : d.styled = d'.styled

namespace Defaults.Alike
variable {c c' e e' : Context} {d d' : Defaults}

theorem mono (h : d.Alike c c' d') (hc : c.Extends e) (hc' : c'.Extends e') : d.Alike e e' d' :=
  ⟨h.level, Template.relAlike_mono h.heading hc hc', Template.relAlike_mono h.ordered hc hc',
    Template.relAlike_mono h.unordered hc hc', h.styled⟩

theorem list (h : d.Alike c c' d') (kind : ElementKind) :
    Option.Rel (Instance.Alike c c') (d.list kind) (d'.list kind) := by
  cases kind with
  | heading => exact .none
  | orderedList => exact h.ordered
  | unorderedList => exact h.unordered

end Defaults.Alike

theorem rel_orElse {α β : Type} {R : α → β → Prop} {a a' : Option α} {b b' : Option β}
    (h : Option.Rel R a b) (h' : Option.Rel R a' b') : Option.Rel R (a <|> a') (b <|> b') := by
  cases h with
  | none => simpa using h'
  | some h => exact .some h

namespace State
variable {d d' : Defaults} {s t : State}

/-- States that are equal but for the numbers of sources, which stand for the same sources. -/
structure Mirrors (d d' : Defaults) (s t : State) : Prop where
  scope : s.scope.Alike s.context t.context t.scope
  defaults : d.Alike s.context t.context d'
  left : s.context.Distinct
  right : t.context.Distinct
  refs : s.refs = t.refs
  stylesheet : s.stylesheet = t.stylesheet
  warnings : s.warnings = t.warnings
  failure : s.failure = t.failure

namespace Mirrors

theorem isStopped_eq (h : Mirrors d d' s t) : s.isStopped = t.isStopped := by
  rw [isStopped, isStopped, h.failure]

theorem with_scope (h : Mirrors d d' s t) {scope scope' : Scope}
    (hscope : scope.Alike s.context t.context scope') :
    Mirrors d d' { s with scope } { t with scope := scope' } :=
  ⟨hscope, h.defaults, h.left, h.right, h.refs, h.stylesheet, h.warnings, h.failure⟩

theorem warn (h : Mirrors d d' s t) (ws : List Warning) : Mirrors d d' (s.warn ws) (t.warn ws) :=
  ⟨h.scope, h.defaults, h.left, h.right, h.refs, h.stylesheet, congrArg (· ++ ws) h.warnings, h.failure⟩

theorem stop (h : Mirrors d d' s t) (e : LabelError) : Mirrors d d' (s.stop e) (t.stop e) :=
  ⟨h.scope, h.defaults, h.left, h.right, h.refs, h.stylesheet, h.warnings, rfl⟩

theorem addRules (h : Mirrors d d' s t) (rules : List Rule) :
    Mirrors d d' (s.addRules rules) (t.addRules rules) :=
  ⟨h.scope, h.defaults, h.left, h.right, h.refs, congrArg (·.addAll rules) h.stylesheet, h.warnings,
    h.failure⟩

theorem increment (h : Mirrors d d' s t) (id : SeriesId) : Mirrors d d' (s.increment id) (t.increment id) :=
  h.with_scope (h.scope.increment id)

theorem resolve (h : Mirrors d d' s t) (attrs : Attrs) : Mirrors d d' (s.resolve attrs) (t.resolve attrs) := by
  rw [State.resolve, State.resolve]
  cases attrs.get? "id" with
  | none => exact h
  | some target =>
    refine ⟨h.scope, h.defaults, h.left, h.right, ?_, h.stylesheet, h.warnings, h.failure⟩
    show s.refs.resolve target s.scope.label? = t.refs.resolve target t.scope.label?
    rw [h.refs, h.scope.label?_eq]

theorem readDirective (h : Mirrors d d' s t) (tag : String) (source : Option String) :
    Template.ReadAlike (s.readDirective tag source).2.context (t.readDirective tag source).2.context
        (s.readDirective tag source).1 (t.readDirective tag source).1 ∧
      Mirrors d d' (s.readDirective tag source).2 (t.readDirective tag source).2 := by
  have hs := s.context.extends_read (.directive tag) source
  have ht := t.context.extends_read (.directive tag) source
  exact ⟨Context.read_alike s.context t.context (.directive tag) source, h.scope.mono hs ht,
    h.defaults.mono hs ht, h.left.read _ source, h.right.read _ source, h.refs, h.stylesheet, h.warnings,
    h.failure⟩

theorem start (h : Mirrors d d' s t) {i j : Instance} (hi : i.Alike s.context t.context j)
    (kind : ElementKind) (styled : Bool) :
    (s.start kind i styled).1 = (t.start kind j styled).1 ∧
      Mirrors d d' (s.start kind i styled).2 (t.start kind j styled).2 := by
  rw [start_eq, start_eq, hi.template, h.scope.find?_eq]
  exact ⟨h.scope.size_eq, h.with_scope (h.scope.started hi kind _ styled h.left h.right)⟩

theorem replace (h : Mirrors d d' s t) {i j : Instance} (hi : i.Alike s.context t.context j)
    (old : SeriesId) (kind : ElementKind) (styled : Bool) :
    (s.replace old kind i styled).1 = (t.replace old kind j styled).1 ∧
      Mirrors d d' (s.replace old kind i styled).2 (t.replace old kind j styled).2 := by
  rw [replace_eq, replace_eq]
  exact ⟨h.scope.size_eq, h.with_scope (h.scope.replaced hi kind styled h.left h.right old)⟩

/-! ## Choice of templates -/

theorem childTemplate? (h : Mirrors d d' s t) (kind : ElementKind) :
    Option.Rel (Instance.Alike s.context t.context) (s.childTemplate? kind) (t.childTemplate? kind) := by
  have hchild : ∀ u : State, u.childTemplate? kind =
      (u.scope.findKind? kind).bind fun id => (u.scope.template? id).bind Instance.child? := by
    intro u
    rw [State.childTemplate?]
    cases u.scope.findKind? kind with
    | none => rfl
    | some id =>
      simp only [Option.bind_eq_bind, Option.bind_some, Scope.template?]
      cases u.scope.roster.get? id <;> rfl
  rw [hchild, hchild, h.scope.findKind?_eq]
  cases t.scope.findKind? kind with
  | none => exact .none
  | some id =>
    have htemplate := h.scope.template id
    rw [Option.bind_some, Option.bind_some]
    generalize s.scope.template? id = a at htemplate ⊢
    generalize t.scope.template? id = b at htemplate ⊢
    cases htemplate with
    | none => exact .none
    | some hi => exact hi.child

theorem headingTemplate (h : Mirrors d d' s t) (level : HeadingLevel) {a b : Option Instance}
    (hdirective : Option.Rel (Instance.Alike s.context t.context) a b) :
    Option.Rel (Instance.Alike s.context t.context) (s.headingTemplate d level a)
      (t.headingTemplate d' level b) := by
  rw [State.headingTemplate, State.headingTemplate, h.defaults.level]
  refine rel_orElse hdirective (rel_orElse ?_ ?_)
  · cases level.outer? with
    | none => exact .none
    | some l => exact h.childTemplate? (.heading l)
  · split
    · exact h.defaults.heading
    · exact .none

theorem headingSeries (h : Mirrors d d' s t) (level : HeadingLevel) (source : Option String) :
    ∃ r s' t', s.headingSeries d level source = (r, s') ∧ t.headingSeries d' level source = (r, t') ∧
      Mirrors d d' s' t' := by
  obtain ⟨hresult, hread⟩ := h.readDirective level.tag source
  rw [State.headingSeries, State.headingSeries]
  rcases hs : s.readDirective level.tag source with ⟨r, s'⟩
  rcases ht : t.readDirective level.tag source with ⟨r', t'⟩
  rw [hs, ht] at hresult hread
  dsimp only at hresult hread ⊢
  cases hresult with
  | error e => exact ⟨_, _, _, rfl, rfl, hread⟩
  | @ok a b hdirective =>
    dsimp only
    rw [hread.scope.findKind?_eq]
    cases t'.scope.findKind? (.heading level) with
    | some current =>
      cases hdirective with
      | none => exact ⟨_, _, _, rfl, rfl, hread⟩
      | some hi =>
        obtain ⟨hid, hreplace⟩ := hread.replace hi current (.heading level) false
        exact ⟨_, _, _, rfl, by rw [hid], hreplace⟩
    | none =>
      have htemplate := hread.headingTemplate level hdirective
      dsimp only
      generalize s'.headingTemplate d level a = a' at htemplate ⊢
      generalize t'.headingTemplate d' level b = b' at htemplate ⊢
      cases htemplate with
      | none => exact ⟨_, _, _, rfl, rfl, hread⟩
      | some hi =>
        obtain ⟨hid, hstart⟩ := hread.start hi (.heading level) false
        exact ⟨_, _, _, rfl, by rw [hid], hstart⟩

theorem templateOfList (h : Mirrors d d' s t) (kind : ElementKind) (tag : String) (source : Option String) :
    Template.ReadAlike (s.templateOfList d kind tag source).2.context
        (t.templateOfList d' kind tag source).2.context (s.templateOfList d kind tag source).1
        (t.templateOfList d' kind tag source).1 ∧
      Mirrors d d' (s.templateOfList d kind tag source).2 (t.templateOfList d' kind tag source).2 := by
  cases source with
  | some source =>
    have hdirective : ∀ (u : State) (d : Defaults),
        u.templateOfList d kind tag (some source) = u.readDirective tag (some source) := by
      intro u d
      rw [State.templateOfList, State.readDirective, Context.read]
      rcases u.context.parse source with ⟨_ | _, _⟩ <;> rfl
    rw [hdirective, hdirective]
    exact h.readDirective tag (some source)
  | none =>
    rw [templateOfList_none, templateOfList_none, listTemplate?, listTemplate?, h.scope.findKind?_eq]
    refine ⟨.ok ?_, h⟩
    split
    · exact h.childTemplate? kind
    · exact h.defaults.list kind

end Mirrors
end State

/-! ## Elements -/

namespace Walk
open State
variable {d d' : Defaults} {s t : State}

/-- A heading. -/
theorem mirrors_enterHeading (h : Mirrors d d' s t) (level : HeadingLevel) (tag : String) (attrs : Attrs) :
    (enterHeading d level tag attrs s).attrs = (enterHeading d' level tag attrs t).attrs ∧
      (enterHeading d level tag attrs s).label = (enterHeading d' level tag attrs t).label ∧
      Mirrors d d' (enterHeading d level tag attrs s).state (enterHeading d' level tag attrs t).state := by
  rw [enterHeading, enterHeading]
  generalize takeBoth tag attrs = ds
  have hwarn := (h.with_scope (h.scope.closeBelow level)).warn ds.warnings
  by_cases hsup : ds.suppressed
  · rw [if_pos hsup, if_pos hsup]
    exact ⟨rfl, rfl, (hwarn.warn _).resolve _⟩
  · obtain ⟨r, s', t', hs, ht, hseries⟩ := hwarn.headingSeries level ds.source
    rw [if_neg hsup, if_neg hsup, hs, ht]
    rcases r with e | _ | id
    · exact ⟨rfl, rfl, hseries.stop e⟩
    · exact ⟨rfl, rfl, hseries.resolve _⟩
    · have hnext := hseries.increment id
      exact ⟨rfl, congrArg some (hnext.scope.text_eq id), hnext.resolve _⟩

theorem mirrors_enterElement (h : Mirrors d d' s t) (tag : String) (attrs : Attrs) :
    (enterElement tag attrs s).attrs = (enterElement tag attrs t).attrs ∧
      Mirrors d d' (enterElement tag attrs s).state (enterElement tag attrs t).state :=
  ⟨rfl, (h.warn _).resolve _⟩

/-- The beginning of a list. -/
theorem mirrors_enterList (h : Mirrors d d' s t) (kind : ElementKind) (tag : String) (attrs : Attrs) :
    ∃ attrs' l s' t', enterList d kind tag attrs s = (attrs', l, s') ∧
      enterList d' kind tag attrs t = (attrs', l, t') ∧ Mirrors d d' s' t' := by
  rw [enterList, enterList, ← h.defaults.styled]
  generalize Directive.label.take tag attrs = label
  generalize Directive.noLabel.discard tag label.attrs = left
  dsimp only
  obtain ⟨hresult, hread⟩ := (h.warn (label.warnings ++ left.2)).templateOfList kind tag label.value
  rcases hs : (s.warn (label.warnings ++ left.2)).templateOfList d kind tag label.value with ⟨r, s'⟩
  rcases ht : (t.warn (label.warnings ++ left.2)).templateOfList d' kind tag label.value with ⟨r', t'⟩
  rw [hs, ht] at hresult hread
  dsimp only at hresult hread ⊢
  cases hresult with
  | error e => exact ⟨_, _, _, _, rfl, rfl, hread.stop e⟩
  | ok htemplate =>
    cases htemplate with
    | none => exact ⟨_, _, _, _, rfl, rfl, (mirrors_enterElement hread tag left.1).2⟩
    | some hi =>
      obtain ⟨hid, hstart⟩ := hread.start hi kind d.styled
      exact ⟨_, _, _, _, rfl, by rw [hid], hstart.resolve _⟩

theorem mirrors_drawItem (h : Mirrors d d' s t) (l : ListState) (attrs : Attrs) :
    (drawItem d l attrs s).1.attrs = (drawItem d' l attrs t).1.attrs ∧
      (drawItem d l attrs s).1.label = (drawItem d' l attrs t).1.label ∧
      (drawItem d l attrs s).2 = (drawItem d' l attrs t).2 ∧
      Mirrors d d' (drawItem d l attrs s).1.state (drawItem d' l attrs t).1.state := by
  have hnext := h.increment l.series
  have hdrawing := hnext.scope.drawItem_eq d.styled l.series l.container attrs
  rw [drawItem, drawItem, ← h.defaults.styled, hdrawing]
  exact ⟨rfl, rfl, rfl, (hnext.addRules _).resolve _⟩

/-- An item. -/
theorem mirrors_enterItem (h : Mirrors d d' s t) (kind : ElementKind) (l : ListState) (tag : String)
    (attrs : Attrs) :
    (enterItem d kind l tag attrs s).1.attrs = (enterItem d' kind l tag attrs t).1.attrs ∧
      (enterItem d kind l tag attrs s).1.label = (enterItem d' kind l tag attrs t).1.label ∧
      (enterItem d kind l tag attrs s).2 = (enterItem d' kind l tag attrs t).2 ∧
      Mirrors d d' (enterItem d kind l tag attrs s).1.state (enterItem d' kind l tag attrs t).1.state := by
  have hwarn := h.warn (takeBoth tag attrs).warnings
  cases hsup : (takeBoth tag attrs).suppressed with
  | true =>
    rw [enterItem_unlabelled hsup, enterItem_unlabelled hsup]
    exact ⟨rfl, rfl, rfl, (hwarn.warn _).resolve _⟩
  | false =>
    obtain ⟨hresult, hread⟩ := hwarn.readDirective tag (takeBoth tag attrs).source
    rcases hs : (s.warn (takeBoth tag attrs).warnings).readDirective tag (takeBoth tag attrs).source
      with ⟨r, s'⟩
    rcases ht : (t.warn (takeBoth tag attrs).warnings).readDirective tag (takeBoth tag attrs).source
      with ⟨r', t'⟩
    rw [hs, ht] at hresult hread
    dsimp only at hresult hread
    cases hresult with
    | error e =>
      rw [enterItem_failed hsup hs, enterItem_failed hsup ht]
      exact ⟨rfl, rfl, rfl, hread.stop e⟩
    | ok htemplate =>
      cases htemplate with
      | none =>
        rw [enterItem_drawn hsup hs, enterItem_drawn hsup ht]
        exact mirrors_drawItem hread l _
      | some hi =>
        obtain ⟨hid, hreplace⟩ := hread.replace hi l.series kind d.styled
        rw [enterItem_replaced hsup hs, enterItem_replaced hsup ht, ← h.defaults.styled, ← hid]
        exact mirrors_drawItem hreplace _ _

theorem mirrors_leaveItem (h : Mirrors d d' s t) (l : ListState) :
    Mirrors d d' (leaveItem l s) (leaveItem l t) := by
  rw [leaveItem, leaveItem, h.isStopped_eq]
  split
  · exact h
  · exact h.with_scope (h.scope.endBelow l.series)

theorem mirrors_leaveList (h : Mirrors d d' s t) (l : ListState) :
    Mirrors d d' (leaveList l s) (leaveList l t) := by
  rw [leaveList, leaveList, h.isStopped_eq]
  split
  · exact h
  · exact h.with_scope (h.scope.remove l.series)

end Walk

/-! ## The walk -/

namespace Draft
open State Walk
variable {d d' : Defaults}

/-- A walk over a node does the same from all states that mirror its first one. -/
def Mirrored (d d' : Defaults) (n : Draft) (s : State) : Prop :=
  ∀ t, Mirrors d d' s t → (walk d n s).1 = (walk d' n t).1 ∧ Mirrors d d' (walk d n s).2 (walk d' n t).2

def MirroredAll (d d' : Defaults) (ns : List Draft) (s : State) : Prop :=
  ∀ t, Mirrors d d' s t →
    (walkAll d ns s).1 = (walkAll d' ns t).1 ∧ Mirrors d d' (walkAll d ns s).2 (walkAll d' ns t).2

def MirroredItems (d d' : Defaults) (kind : ElementKind) (ns : List Draft) (l : ListState) (s : State) : Prop :=
  ∀ t, Mirrors d d' s t →
    (walkItems d kind ns l s).1 = (walkItems d' kind ns l t).1 ∧
      (walkItems d kind ns l s).2.1 = (walkItems d' kind ns l t).2.1 ∧
      Mirrors d d' (walkItems d kind ns l s).2.2 (walkItems d' kind ns l t).2.2

/-- What is mirrored in the parts of a draft is mirrored in the whole. -/
theorem walkCases_mirrored (d d' : Defaults) :
    WalkCases d (Mirrored d d') (MirroredAll d d') (MirroredItems d d') where
  stopped n s hs t h := by
    rw [walk_stopped hs, walk_stopped (h.isStopped_eq ▸ hs)]
    exact ⟨rfl, h⟩
  leaf n s _ hn t h := by
    rw [walk_leaf hn, walk_leaf hn]
    exact ⟨rfl, h⟩
  heading level tag attrs label children s hs hk t h := by
    obtain ⟨hattrs, hlabel, hstate⟩ := mirrors_enterHeading h level tag attrs
    rw [walk_heading hs hk, walk_heading (h.isStopped_eq ▸ hs) hk, hattrs, hlabel]
    exact ⟨rfl, hstate⟩
  other tag attrs label children s hs hk hchildren t h := by
    obtain ⟨hattrs, hstate⟩ := mirrors_enterElement h tag attrs
    obtain ⟨hnodes, hend⟩ := hchildren _ hstate
    rw [walk_other hs hk, walk_other (h.isStopped_eq ▸ hs) hk, hattrs, hnodes]
    exact ⟨rfl, hend⟩
  bareList kind tag attrs attrs' label children s s' hs hk hlist he hchildren t h := by
    obtain ⟨_, _, _, t', hes, het, hstate⟩ := mirrors_enterList h kind tag attrs
    cases he.symm.trans hes
    obtain ⟨hnodes, hend⟩ := hchildren t' hstate
    rw [walk_bareList hs hk hlist he, walk_bareList (h.isStopped_eq ▸ hs) hk hlist het, hnodes]
    exact ⟨rfl, hend⟩
  list kind tag attrs attrs' label children l s s' hs hk hlist he hchildren t h := by
    obtain ⟨_, _, _, t', hes, het, hstate⟩ := mirrors_enterList h kind tag attrs
    cases he.symm.trans hes
    obtain ⟨hnodes, hl, hend⟩ := hchildren t' hstate
    rw [walk_list hs hk hlist he, walk_list (h.isStopped_eq ▸ hs) hk hlist het, hnodes, hl]
    exact ⟨rfl, mirrors_leaveList hend _⟩
  nil s t h := by
    rw [walkAll_nil, walkAll_nil]
    exact ⟨rfl, h⟩
  cons n rest s hn hrest t h := by
    obtain ⟨hnode, hstate⟩ := hn t h
    obtain ⟨hnodes, hend⟩ := hrest _ hstate
    rw [walkAll_cons, walkAll_cons, hnode, hnodes]
    exact ⟨rfl, hend⟩
  itemsStopped kind ns l s hs t h := by
    rw [walkItems_stopped hs, walkItems_stopped (h.isStopped_eq ▸ hs)]
    exact ⟨rfl, rfl, h⟩
  itemsNil kind l s _ t h := by
    rw [walkItems_nil, walkItems_nil]
    exact ⟨rfl, rfl, h⟩
  itemsLeaf kind n rest l s _ hn hrest t h := by
    obtain ⟨hnodes, hl, hend⟩ := hrest t h
    rw [walkItems_leaf hn, walkItems_leaf hn, hnodes]
    exact ⟨rfl, hl, hend⟩
  item kind attrs label content rest l s hs hcontent hrest t h := by
    obtain ⟨hattrs, hlabel, hl, henter⟩ := mirrors_enterItem h kind l "li" attrs
    obtain ⟨hnodes, hstate⟩ := hcontent _ henter
    obtain ⟨hitems, hl', hend⟩ := hrest _ (mirrors_leaveItem hstate _)
    rw [walkItems_item hs, walkItems_item (h.isStopped_eq ▸ hs)]
    dsimp only
    rw [hattrs, hlabel, hnodes, hitems, hl', ← hl]
    exact ⟨rfl, rfl, hend⟩
  itemsOther kind tag attrs label content rest l s hs hli hn hrest t h := by
    obtain ⟨hnode, hstate⟩ := hn t h
    obtain ⟨hitems, hl, hend⟩ := hrest _ hstate
    rw [walkItems_other hs hli, walkItems_other (h.isStopped_eq ▸ hs) hli, hnode, hitems, hl]
    exact ⟨rfl, rfl, hend⟩

/-- Walks from states that mirror each other make the same draft, and lead to such states. -/
theorem walk_mirrors (n : Draft) {s t : State} (h : Mirrors d d' s t) :
    (walk d n s).1 = (walk d' n t).1 ∧ Mirrors d d' (walk d n s).2 (walk d' n t).2 :=
  (walkCases_mirrored d d').walk n s t h

end Draft

/-! ## The settings -/

namespace Defaults

/-- What comes of reading the settings in two contexts. -/
inductive ReadAlike (c c' : Context) : Except LabelError Defaults → Except LabelError Defaults → Prop
  | error (e : LabelError) : ReadAlike c c' (.error e) (.error e)
  | ok {d d' : Defaults} (h : d.Alike c c' d') : ReadAlike c c' (.ok d) (.ok d')

theorem ofSettings_alike (c c' : Context) (settings : Settings) :
    ReadAlike (ofSettings c settings).2 (ofSettings c' settings).2 (ofSettings c settings).1
      (ofSettings c' settings).1 := by
  rw [ofSettings, ofSettings]
  cases HeadingLevel.ofNat? settings.headingLevel with
  | none => exact .error _
  | some level =>
    have hheading := c.read_alike c' .headingSetting settings.headingLabels
    generalize c.read .headingSetting settings.headingLabels = p at hheading ⊢
    generalize c'.read .headingSetting settings.headingLabels = p' at hheading ⊢
    obtain ⟨r, c₁⟩ := p
    obtain ⟨r', c₁'⟩ := p'
    cases hheading with
    | error e => exact .error e
    | ok hheading =>
      have hordered := c₁.read_alike c₁' .orderedSetting settings.orderedLabels
      have h₂ := c₁.extends_read .orderedSetting settings.orderedLabels
      have h₂' := c₁'.extends_read .orderedSetting settings.orderedLabels
      dsimp only
      generalize c₁.read .orderedSetting settings.orderedLabels = p at hordered h₂ ⊢
      generalize c₁'.read .orderedSetting settings.orderedLabels = p' at hordered h₂' ⊢
      obtain ⟨r, c₂⟩ := p
      obtain ⟨r', c₂'⟩ := p'
      cases hordered with
      | error e => exact .error e
      | ok hordered =>
        have hunordered := c₂.read_alike c₂' .unorderedSetting settings.unorderedLabels
        have h₃ := c₂.extends_read .unorderedSetting settings.unorderedLabels
        have h₃' := c₂'.extends_read .unorderedSetting settings.unorderedLabels
        dsimp only
        generalize c₂.read .unorderedSetting settings.unorderedLabels = p at hunordered h₃ ⊢
        generalize c₂'.read .unorderedSetting settings.unorderedLabels = p' at hunordered h₃' ⊢
        obtain ⟨r, c₃⟩ := p
        obtain ⟨r', c₃'⟩ := p'
        cases hunordered with
        | error e => exact .error e
        | ok hunordered =>
          exact .ok ⟨rfl, Template.relAlike_mono hheading (h₂.trans h₃) (h₂'.trans h₃'),
            Template.relAlike_mono hordered h₃ h₃', hunordered, rfl⟩

theorem reaches_ofSettings (c : Context) (settings : Settings) : c.Reaches (ofSettings c settings).2 := by
  rw [ofSettings]
  cases HeadingLevel.ofNat? settings.headingLevel with
  | none => exact .refl
  | some level =>
    have h₁ := (Context.Reaches.refl (c := c)).read .headingSetting settings.headingLabels
    rcases hread : c.read .headingSetting settings.headingLabels with ⟨_ | heading, c₁⟩ <;> rw [hread] at h₁
    · exact h₁
    · have h₂ := h₁.read .orderedSetting settings.orderedLabels
      dsimp only at h₂ ⊢
      rcases hread : c₁.read .orderedSetting settings.orderedLabels with ⟨_ | ordered, c₂⟩ <;>
        rw [hread] at h₂
      · exact h₂
      · have h₃ := h₂.read .unorderedSetting settings.unorderedLabels
        dsimp only at h₃ ⊢
        rcases hread : c₂.read .unorderedSetting settings.unorderedLabels with ⟨_ | unordered, c₃⟩ <;>
          rw [hread] at h₃ <;> exact h₃

end Defaults

/-! ## Runs -/

namespace State
variable {d : Defaults} {s s' : State}

theorem Step.reaches (h : Step d s s') : s.context.Reaches s'.context := by
  cases h with
  | keep _ hcontext =>
    rw [hcontext]
    exact .refl
  | read tag source => exact Context.Reaches.refl.read (.directive tag) source
  | shrink => exact .refl
  | increment => exact .refl
  | start =>
    rw [start_eq]
    exact .refl
  | replace =>
    rw [replace_eq]
    exact .refl

theorem Steps.reaches (h : Steps d s s') : s.context.Reaches s'.context := by
  induction h with
  | refl => exact .refl
  | more step _ ih => exact step.reaches.trans ih

end State

namespace Labelling
open State Draft

/-- A run does nothing to its context but to read templates. -/
theorem reaches_draft (l : Labelling) (c : Context) (n : Draft) : c.Reaches (l.draft c n).state.context := by
  have hsettings := Defaults.reaches_ofSettings c l.settings
  rw [draft]
  rcases hread : Defaults.ofSettings c l.settings with ⟨e | d, c'⟩ <;> rw [hread] at hsettings
  · exact hsettings
  · exact hsettings.trans (walk_steps d (n.markRefs none) (begin c' (n.markRefs none))).reaches

/-- Runs in two contexts make the same draft, and end in states that are equal but for the contexts and the
numbers of sources. -/
theorem draft_mirrors (l : Labelling) {c c' : Context} (hc : c.Distinct) (hc' : c'.Distinct) (n : Draft) :
    let run := l.draft c n
    let run' := l.draft c' n
    run.draft = run'.draft ∧ run.state.refs = run'.state.refs ∧ run.state.result = run'.state.result := by
  have hsettings := Defaults.ofSettings_alike c c' l.settings
  have hdistinct := (Defaults.reaches_ofSettings c l.settings).distinct hc
  have hdistinct' := (Defaults.reaches_ofSettings c' l.settings).distinct hc'
  rw [draft, draft]
  generalize Defaults.ofSettings c l.settings = p at hsettings hdistinct ⊢
  generalize Defaults.ofSettings c' l.settings = p' at hsettings hdistinct' ⊢
  obtain ⟨r, e⟩ := p
  obtain ⟨r', e'⟩ := p'
  cases hsettings with
  | error e => exact ⟨rfl, rfl, rfl⟩
  | ok hd =>
    have hbegin : Mirrors _ _ (begin e (n.markRefs none)) (begin e' (n.markRefs none)) :=
      ⟨⟨rfl, fun id => .none, .nil⟩, hd, hdistinct, hdistinct', rfl, rfl, rfl, rfl⟩
    obtain ⟨hdraft, hend⟩ := walk_mirrors (n.markRefs none) hbegin
    refine ⟨hdraft, hend.refs, ?_⟩
    rw [result, result, hend.failure, hend.stylesheet, hend.warnings]

end Labelling

/-! ## Contexts in use -/

namespace Template.Context

/-- What a context is used for: reading a template, and labelling a document. -/
inductive Use (c : Context) : Context → Prop
  | parse (source : String) : Use c (c.parse source).2
  | apply (l : Labelling) (doc : Node) : Use c (l.apply c doc).context
  | label (l : Labelling) (doc : Document) : Use c (doc.label l c).context

/-- A context that has been used any number of times. -/
inductive Uses (c : Context) : Context → Prop
  | refl : Uses c c
  | more {c' c'' : Context} (h : Uses c c') (use : Use c' c'') : Uses c c''

variable {c c' : Context}

theorem Use.reaches (h : Use c c') : c.Reaches c' := by
  cases h with
  | parse source => exact Reaches.refl.parse source
  | apply l doc => exact l.reaches_draft c _
  | label l doc => exact l.reaches_draft c _

theorem Uses.reaches (h : Uses c c') : c.Reaches c' := by
  induction h with
  | refl => exact .refl
  | more _ use ih => exact ih.trans use.reaches

theorem Uses.distinct (h : Uses {} c) : c.Distinct := h.reaches.distinct List.nodup_nil

end Template.Context

namespace Labelling
open Template.Context (Uses)

/-- What two contexts have been used for before does not show: they label every document in the same way, to
the same tree with the same stylesheet and warnings, or with the same error. In one context, whatever else it
is used for in between, two sources are read to the same instance if and only if they are equal. The texts of
counts that styles remember are those that they write. -/
theorem sharing_unseen (l : Labelling) (doc : Node) (tree : Document) {c₁ c₂ : Context} (h₁ : Uses {} c₁)
    (h₂ : Uses {} c₂) :
    (l.apply c₁ doc).document = (l.apply c₂ doc).document ∧
      (l.apply c₁ doc).result = (l.apply c₂ doc).result ∧
      (tree.label l c₁).document = (tree.label l c₂).document ∧
      (tree.label l c₁).result = (tree.label l c₂).result ∧
      (∀ (source source' : String) (i j : Instance) (c : Context), (c₁.parse source).1 = .ok i →
        Uses (c₁.parse source).2 c → (c.parse source').1 = .ok j → (i = j ↔ source = source')) ∧
      ∀ (asked : List (CounterStyle × Int)) (style : CounterStyle) (n : Int),
        (style.recalled n (CounterStyle.remembered asked)).1 = style.format n := by
  obtain ⟨hdraft, hrefs, hresult⟩ := l.draft_mirrors h₁.distinct h₂.distinct (.ofNode doc)
  obtain ⟨hdraft', hrefs', hresult'⟩ :=
    l.draft_mirrors h₁.distinct h₂.distinct (.ofNode (tree.subtree Document.root))
  refine ⟨?_, hresult, ?_, hresult', fun source source' i j c hi h hj => ?_,
    fun asked style n => style.recalled_remembered n asked⟩
  · rw [apply, apply, hdraft, hrefs]
  · rw [Document.label, Document.label, hdraft', hrefs']
  · exact Template.Context.parse_eq_iff h₁.distinct hi h.reaches hj

/-- A context in which a template was read and a run has failed gives other numbers to its sources than a new
one. It labels a list in the same way, and tells `1` from `i`. -/
theorem sharing_unseen_used :
    let l : Labelling := { settings := { orderedLabels := some "1", mode := .css } }
    let broken : Node := .root [.element "ul" [("-label", "i")] [], .element "ul" [("-label", "?1?1")] []]
    let doc : Node := .root [.element "ol" [] [.element "li" [] []]]
    let used := (l.apply (Context.parse {} "a").2 broken).context
    used.sources = ["a", "1", "i"] ∧ (l.apply {} doc).result = (l.apply used doc).result ∧
      (l.apply {} doc).document = (l.apply used doc).document ∧
      ∃ i j, (Context.parse {} "1").1 = .ok i ∧ (Context.parse (Context.parse {} "1").2 "i").1 = .ok j ∧
        i ≠ j := by
  intro l broken doc used
  have hused : Uses {} used := (Uses.refl.more (.parse "a")).more (.apply l broken)
  have hsources : used.sources = ["a", "1", "i"] := by decide +kernel
  have hi : (Context.parse {} "1").1 = .ok ⟨⟨{ style := Registry.find? "1" }, [], false⟩, 0, 0⟩ := by
    decide +kernel
  have hj : (Context.parse (Context.parse {} "1").2 "i").1 =
      .ok ⟨⟨{ style := Registry.find? "i" }, [], false⟩, 1, 0⟩ := by decide +kernel
  obtain ⟨hdocument, hresult, -, -, hparse, -⟩ := sharing_unseen l doc .empty .refl hused
  exact ⟨hsources, hresult, hdocument, _, _, hi, hj, (hparse _ _ _ _ _ hi .refl hj).not.2 (by decide)⟩

end Labelling
end Rubric
