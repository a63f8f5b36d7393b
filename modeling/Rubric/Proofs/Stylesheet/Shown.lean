import Rubric.Proofs.Labelling.Modes
import Rubric.Proofs.Stylesheet.Enclosed
import Rubric.Proofs.Stylesheet.Rules
import Rubric.Proofs.Stylesheet.Tidy

/-!
# Labels by counters show the labels as text

* `ListState.Fresh`, `ListState.Begun` : a list before its first item, and behind it;
* `drawItem_text`, `drawItem_styled` : what the label of an item adds in either mode;
* `State.Beside`, `State.Between` : two runs in the two modes at a place inside of lists, or between the
  items of a list;
* `Between.item`, `Between.next` : they come into an item and out of it;
* `Between.shown_item` : the label of the item by counters is what it is as text.
-/

namespace Rubric

namespace Walk
open State
variable {d : Defaults} {l : ListState} {s : State} {v : Series}

/-- Nothing has been drawn for a list. -/
def ListState.Fresh (l : ListState) : Prop := l.container.styling = none ∧ l.classes = []

/-- The items of a list have been drawn by the series of a key. -/
def ListState.Begun (l : ListState) (key : Nat) : Prop :=
  l.container.styling = some ⟨key, l.series, false⟩ ∧
    l.classes = [Css.labelledClass, Css.styleName key]

theorem view?_counted {id : SeriesId} (hv : s.scope.roster.view? id = some v) :
    (s.increment id).scope.roster.view? id = some { v with count := v.count + 1 } := by
  rw [scope_increment, Scope.increment, Roster.view?_increment, hv]
  simp

theorem get?_counted {id : SeriesId} (hv : s.scope.roster.view? id = some v) :
    ∃ t, (s.increment id).scope.roster.get? id = some t ∧ t.key = v.key ∧ t.styled = v.styled := by
  obtain ⟨t, ht, heq⟩ := Roster.get?_of_view? (view?_counted hv)
  have hkey : t.unlinked.key = v.key := by rw [heq]
  have hstyled : t.unlinked.styled = v.styled := by rw [heq]
  exact ⟨t, ht, hkey, hstyled⟩

/-- A label as text goes in front of the item. -/
theorem drawItem_text (hd : d.styled = false) (l : ListState) (attrs : Attrs) (s : State) :
    (drawItem d l attrs s).1.attrs = attrs ∧
      (drawItem d l attrs s).1.label = some ((s.increment l.series).scope.roster.text l.series) := by
  have hdraw : (s.increment l.series).scope.roster.drawItem d.styled l.series l.container attrs =
      (s.increment l.series).scope.roster.drawText l.series l.container attrs := by
    rw [Roster.drawItem, hd]
    cases (s.increment l.series).scope.roster.get? l.series <;> rfl
  simp only [drawItem, hdraw]
  exact ⟨rfl, rfl⟩

/-- A label by counters leaves the item as it is. -/
theorem drawItem_styled (hd : d.styled = true) (hv : s.scope.roster.view? l.series = some v)
    (hstyled : v.styled = true) (hl : l.Fresh ∨ l.Begun v.key) (attrs : Attrs) :
    (drawItem d l attrs s).1.attrs = attrs ∧ (drawItem d l attrs s).1.label = none ∧
      (drawItem d l attrs s).2.Begun v.key := by
  obtain ⟨t, ht, htkey, htstyled⟩ := get?_counted hv
  rw [hstyled] at htstyled
  have hdraw : (s.increment l.series).scope.roster.drawItem d.styled l.series l.container attrs =
      (s.increment l.series).scope.roster.drawStyled l.series t l.container attrs := by
    rw [Roster.drawItem, hd, ht]
    simp [htstyled]
  simp only [drawItem, hdraw, Roster.drawStyled]
  rcases hl with ⟨hstyling, hclasses⟩ | ⟨hstyling, hclasses⟩
  · simp [hstyling, hclasses, htkey, ListState.Begun]
  · simp [hstyling, hclasses, ListState.Begun]

theorem items?_nextDraw (hv : s.scope.roster.view? l.series = some v) (hl : l.Fresh) :
    (nextDraw l s).items? = some (v.key, none) := by
  obtain ⟨t, ht, htkey, -⟩ := get?_counted hv
  have hstyling : l.container.styling = none := hl.1
  rw [nextDraw, Draw.items?, ht, Option.bind_some, hstyling, htkey]

theorem key?_nextDraw (hv : s.scope.roster.view? l.series = some v) :
    (nextDraw l s).key? = some v.key := by
  obtain ⟨t, ht, htkey, -⟩ := get?_counted hv
  rw [nextDraw, Draw.key?, ht]
  exact congrArg some htkey

end Walk

/-- What one rule for the one style of a list draws. -/
theorem Stylesheet.drawn?_eq {sheet : Stylesheet} {i : ListItem} {l : ListPlace} {e : List ListPlace}
    {key : Nat} {value : Content} (hattrs : i.attrs.Unclassed) (hi : i.lists = l :: e)
    (hl : l.1.styleClasses = [(Css.styleName key).toList])
    (hrules : sheet.itemRules (Css.styleName key) = [.content key none value]) :
    sheet.drawn? i = value.shown? (ListPlace.position? (l :: e)) := by
  have hlabel : i.attrs.hasClass Css.noLabelClass = false :=
    Attrs.not_hasClass_of_unclassed hattrs (by decide)
  simp [drawn?, hlabel, hi, hl, hrules]

namespace Draft
open Node State Walk

theorem unspanned_walk (d : Defaults) {n : Draft} (hn : n.Tidy) (s : State) :
    (walk d n s).1.Unspanned := by
  by_cases hs : s.isStopped
  · rw [walk_stopped hs]
    exact hn.unspanned
  cases n with
  | text content => trivial
  | split target pieces => trivial
  | element tag attrs label children =>
    obtain ⟨hd, hc, -⟩ := hn
    have hspan : ElementKind.ofTag? "span" = none := by decide
    cases hk : ElementKind.ofTag? tag with
    | none =>
      rw [walk_other hs hk, enterElement_of_undirected hd]
      exact fun _ => Attrs.not_hasClass_of_unclassed hc (by decide)
    | some kind =>
      have hne : tag ≠ "span" := fun heq => by
        rw [heq, hspan] at hk
        cases hk
      by_cases hlist : kind.isList
      · rcases he : enterList d kind tag attrs s with ⟨attrs', _ | l, s'⟩
        · rw [walk_bareList hs hk hlist he]
          exact fun heq => absurd heq hne
        · rw [walk_list hs hk hlist he]
          exact fun heq => absurd heq hne
      · obtain ⟨level, rfl⟩ := ElementKind.exists_heading hlist
        rw [walk_heading hs hk]
        exact fun heq => absurd heq hne

theorem unspanned_walkAll (d : Defaults) {ns : List Draft} (hns : TidyAll ns) (s : State) :
    ∀ n ∈ (walkAll d ns s).1, n.Unspanned := by
  induction ns generalizing s with
  | nil => simp [walkAll_nil]
  | cons n rest ih =>
    rw [walkAll_cons]
    intro m hm
    rcases List.mem_cons.1 hm with rfl | hm
    · exact unspanned_walk d hns.1 s
    · exact ih hns.2 _ m hm

end Draft

/-! ## Runs in the two modes, side by side -/

abbrev Defaults.asText (d : Defaults) : Defaults := { d with styled := false }

namespace State
open Scope Walk
variable {d : Defaults} {t s t' s' : State} {e : List ListPlace} {ids : List SeriesId} {id : SeriesId}

/-- Two runs at a place inside of lists, the first with counters and the second with text. -/
structure Beside (d : Defaults) (t s : State) (e : List ListPlace) (ids : List SeriesId) : Prop where
  twin : Twin t s
  coherent : t.Coherent d
  within : t.scope.Within e ids

/-- Two runs between the items of a list. -/
structure Between (d : Defaults) (t s : State) (e : List ListPlace) (ids : List SeriesId)
    (id : SeriesId) : Prop where
  twin : Twin t s
  coherent : t.Coherent d
  entered : t.scope.Entered e ids id

theorem Beside.frames (h : Beside d t s e ids) (ht : Twin t' s') (hs : Steps d t t')
    (hf : Frames t.scope t'.scope) : Beside d t' s' e ids :=
  ⟨ht, hs.coherent h.coherent, h.within.frames h.coherent.sound hf hs.grows⟩

theorem Between.frames (h : Between d t s e ids id) (ht : Twin t' s') (hs : Steps d t t')
    (hf : Frames t.scope t'.scope) : Between d t' s' e ids id :=
  ⟨ht, hs.coherent h.coherent, h.entered.frames h.coherent.sound hf hs.grows⟩

theorem Beside.bare (h : Beside d t s e ids) {l : ListPlace} (hl : l.1.styleClasses = []) :
    Beside d t s (l :: e) ids := ⟨h.twin, h.coherent, h.within.bare hl⟩

theorem Beside.resolve (h : Beside d t s e ids) (attrs : Attrs) :
    Beside d (t.resolve attrs) (s.resolve attrs) e ids := by
  refine h.frames (h.twin.resolve attrs attrs) (steps_resolve d t attrs) ?_
  rw [scope_resolve]
  exact .refl _

theorem Beside.walk (h : Beside d t s e ids) {n : Draft} (hn : n.Tidy) (hfree : n.headingLevels = []) :
    Beside d (n.walk d t).2 (n.walk d.asText s).2 e ids := by
  have ht := Draft.walk_twin d false n hn.plain h.twin
  exact h.frames ht (Draft.walk_steps d n t) (Draft.walk_frames d n hfree h.coherent.sound ht.left)

theorem Beside.start (h : Beside d t s e ids) (hd : d.styled = true) {kind : ElementKind}
    (hk : kind.isList = true) {template : Template.Instance}
    (htemplate : t.listTemplate? d kind = some template) (tag : String) {attrs : Attrs}
    (ha : attrs.Undirected) :
    ∃ t' s', Walk.enterList d kind tag attrs t =
        (attrs, some { series := t.scope.roster.series.size }, t') ∧
      Walk.enterList d.asText kind tag attrs s =
        (attrs, some { series := s.scope.roster.series.size }, s') ∧
      Between d t' s' e ids t.scope.roster.series.size ∧
      t'.scope.roster.view? t.scope.roster.series.size =
        some (t.scope.roster.newSeries kind template
          (template.template.segment.parent.bind t.scope.find?) true) := by
  have ht := enterList_of_undirected ha d kind tag t
  have hs := enterList_of_undirected ha d.asText kind tag s
  have hsteps := enterList_steps d kind tag attrs t
  rw [← h.twin.listTemplate?_eq d kind false, htemplate] at hs
  rw [htemplate] at ht
  rw [ht] at hsteps
  have htwin := (h.twin.start kind template d.styled false).resolve attrs attrs
  refine ⟨_, _, ht, hs, ⟨htwin, hsteps.coherent h.coherent, ?_⟩, ?_⟩
  · rw [scope_resolve, hd]
    exact h.within.enter h.coherent.sound hk template
  · rw [scope_resolve, hd]
    exact Roster.view?_create_self ..

/-- The next item of a list, on the way in and with the next item to come. -/
theorem Between.item {k k' : ListState} (h : Between d t s e ids k.series) (hk : k.series = k'.series)
    {v : Series} (hv : t.scope.roster.view? k.series = some v) {A : Attrs}
    (hA : A.styleClasses = [(Css.styleName v.key).toList]) (attrs : Attrs) :
    Beside d (drawItem d k attrs t).1.state (drawItem d.asText k' attrs s).1.state
        ((A, v.count + 1) :: e) (k.series :: ids) ∧
      Between d (drawItem d k attrs t).1.state (drawItem d.asText k' attrs s).1.state e ids k.series := by
  have htwin := twin_drawItem h.twin d d.asText hk attrs attrs
  have hcoherent := (drawItem_steps d k attrs t).coherent h.coherent
  refine ⟨⟨htwin, hcoherent, ?_⟩, ⟨htwin, hcoherent, ?_⟩⟩
  · rw [scope_drawItem]
    exact h.entered.item hv hA
  · rw [scope_drawItem]
    exact h.entered.increment

theorem Between.walkAll (h : Between d t s e ids id) {ns : List Draft} (hns : Draft.TidyAll ns)
    (hfree : Draft.headingLevelsAll ns = []) :
    Between d (Draft.walkAll d ns t).2 (Draft.walkAll d.asText ns s).2 e ids id ∧
      ∀ j, t.scope.roster.Has j →
        (Draft.walkAll d ns t).2.scope.roster.view? j = t.scope.roster.view? j := by
  have ht := Draft.walkAll_twin d false ns hns.plain h.twin
  have hf := Draft.walkAll_frames d ns hfree h.coherent.sound ht.left
  exact ⟨h.frames ht (Draft.walkAll_steps d ns t) hf, hf.view⟩

theorem Between.leaveItem (k k' : ListState) (h : Between d t s e ids k.series)
    (hk : k.series = k'.series) :
    Between d (leaveItem k t) (leaveItem k' s) e ids k.series ∧
      ∀ j, t.scope.roster.Has j → (leaveItem k t).scope.roster.view? j = t.scope.roster.view? j := by
  obtain ⟨base, hinner, -⟩ := h.entered.inner
  have hf := h.coherent.sound.frames_endBelow hinner
  have hscope : (Walk.leaveItem k t).scope = t.scope.endBelow k.series := by
    rw [leaveItem_of_running h.twin.left, scope_endBelow]
  rw [← hscope] at hf
  exact ⟨h.frames (twin_leaveItem h.twin hk) (leaveItem_steps d k t) hf, hf.view⟩

/-- Behind the next item of a list, with its content. -/
theorem Between.next {k k' : ListState} (h : Between d t s e ids k.series) (hk : k.series = k'.series)
    {v : Series} (hv : t.scope.roster.view? k.series = some v) {A : Attrs}
    (hA : A.styleClasses = [(Css.styleName v.key).toList]) (attrs : Attrs) {ns : List Draft}
    (hns : Draft.TidyAll ns) (hfree : Draft.headingLevelsAll ns = []) :
    Between d
        (Walk.leaveItem (drawItem d k attrs t).2 (Draft.walkAll d ns (drawItem d k attrs t).1.state).2)
        (Walk.leaveItem (drawItem d.asText k' attrs s).2
          (Draft.walkAll d.asText ns (drawItem d.asText k' attrs s).1.state).2) e ids k.series ∧
      (Walk.leaveItem (drawItem d k attrs t).2
          (Draft.walkAll d ns (drawItem d k attrs t).1.state).2).scope.roster.view? k.series =
        some { v with count := v.count + 1 } := by
  obtain ⟨-, hbetween⟩ := h.item hk hv hA attrs
  obtain ⟨hinside, hkeep⟩ := hbetween.walkAll hns hfree
  obtain ⟨hafter, hleave⟩ := Between.leaveItem (drawItem d k attrs t).2
    (drawItem d.asText k' attrs s).2 hinside hk
  have hhas := hbetween.entered.has hbetween.coherent.sound (List.mem_cons_self ..)
  have hhas' := hinside.entered.has hinside.coherent.sound (List.mem_cons_self ..)
  refine ⟨hafter, ?_⟩
  rw [hleave _ hhas', hkeep _ hhas, scope_drawItem]
  exact view?_counted hv

/-- The label that the stylesheet draws for the next item of a list is its label as text. -/
theorem Between.shown_item {k k' : ListState} (h : Between d t s e ids k.series)
    (hk : k.series = k'.series) {v : Series} (hv : t.scope.roster.view? k.series = some v) {A : Attrs}
    (hA : A.styleClasses = [(Css.styleName v.key).toList]) {sheet : Stylesheet}
    (hrules : sheet.itemRules (Css.styleName v.key) = [.content v.key none (nextDraw k t).content])
    {attrs : Attrs} (hattrs : attrs.Unclassed) (content : List Node) :
    sheet.drawn? ⟨(A, v.count + 1) :: e, attrs, content⟩ =
      some ((s.increment k'.series).scope.roster.text k'.series) := by
  obtain ⟨hinside, -⟩ := h.item hk hv hA attrs
  have hshown := hinside.coherent.shown_content hinside.within.nested hinside.within.surrounds
  rw [scope_drawItem] at hshown
  rw [Stylesheet.drawn?_eq hattrs rfl hA hrules]
  refine hshown.trans (congrArg some ?_)
  rw [← hk, ← (h.twin.increment k.series).text_eq, scope_increment]

end State
end Rubric
