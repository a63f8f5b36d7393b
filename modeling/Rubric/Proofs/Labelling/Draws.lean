import Rubric.Proofs.Labelling.Steps

/-!
# The labels that a walk draws

* `Draw` : a label of a list item at the moment at which it is drawn;
* `Draft.draws`, `drawsAll`, `drawsItems` : the labels that a walk draws, in document order;
* `walk_stylesheet` : a walk adds the rules of these labels to the stylesheet, and nothing else;
* `walk_draws` : each of them is drawn in a state on the way of the walk.
-/

namespace Rubric

/-- A label of a list item at the moment at which it is drawn. -/
structure Draw where
  roster : Roster
  series : SeriesId
  container : ContainerState

def Draw.rules (styled : Bool) (w : Draw) : List Rule :=
  (w.roster.drawItem styled w.series w.container []).1.rules

theorem rules_drawItem (r : Roster) (styled : Bool) (id : SeriesId) (container : ContainerState)
    (attrs : Attrs) :
    (r.drawItem styled id container attrs).1.rules = Draw.rules styled ⟨r, id, container⟩ := by
  unfold Draw.rules Roster.drawItem
  cases r.get? id with
  | none => rfl
  | some v =>
    dsimp only
    split
    · unfold Roster.drawStyled
      cases container.styling with
      | none => rfl
      | some styling =>
        dsimp only
        split <;> rfl
    · rfl

namespace Walk

def nextDraw (l : ListState) (s : State) : Draw :=
  ⟨(s.increment l.series).scope.roster, l.series, l.container⟩

/-- The label of an item, if it has one. -/
def itemDraw (d : Defaults) (kind : ElementKind) (l : ListState) (tag : String) (attrs : Attrs)
    (s : State) : List Draw :=
  let ds := takeBoth tag attrs
  if ds.suppressed then []
  else
    match (s.warn ds.warnings).readDirective tag ds.source with
    | (.error _, _) => []
    | (.ok none, s) => [nextDraw l s]
    | (.ok (some template), s) =>
      let (id, s) := s.replace l.series kind template d.styled
      [nextDraw { l with series := id } s]

end Walk

namespace Draft
open Walk

mutual
/-- The labels that the walk over a node draws. -/
def draws (d : Defaults) : Draft → State → List Draw
  | element tag attrs _ children, s =>
    if s.isStopped then []
    else
      match ElementKind.ofTag? tag with
      | some (.heading _) => []
      | some kind =>
        match enterList d kind tag attrs s with
        | (_, none, s) => drawsAll d children s
        | (_, some l, s) => drawsItems d kind children l s
      | none => drawsAll d children (enterElement tag attrs s).state
  | _, _ => []

def drawsAll (d : Defaults) : List Draft → State → List Draw
  | [], _ => []
  | n :: rest, s => draws d n s ++ drawsAll d rest (walk d n s).2

/-- The labels that the walk over the children of a list draws. -/
def drawsItems (d : Defaults) (kind : ElementKind) : List Draft → ListState → State → List Draw
  | [], _, _ => []
  | element tag attrs label content :: rest, l, s =>
    if s.isStopped then []
    else if tag = "li" then
      let e := enterItem d kind l tag attrs s
      itemDraw d kind l tag attrs s ++ (drawsAll d content e.1.state ++
        drawsItems d kind rest e.2 (leaveItem e.2 (walkAll d content e.1.state).2))
    else
      draws d (element tag attrs label content) s ++
        drawsItems d kind rest l (walk d (element tag attrs label content) s).2
  | _ :: rest, l, s => drawsItems d kind rest l s
end

/-! ## The draws, case by case -/

section Cases
variable {d : Defaults} {kind : ElementKind} {tag : String} {attrs attrs' : Attrs}
  {label : Option String} {children rest : List Draft} {l : ListState} {s s' : State}

theorem draws_leaf {n : Draft} (hn : n.Leaf) (s : State) : draws d n s = [] := by
  cases n with
  | text => rfl
  | split => rfl
  | element => exact (hn _ _ _ _ rfl).elim

theorem draws_stopped (h : s.isStopped) (n : Draft) : draws d n s = [] := by
  cases n with
  | element => exact if_pos h
  | text => rfl
  | split => rfl

theorem draws_heading {level : HeadingLevel} (h : ¬s.isStopped)
    (hk : ElementKind.ofTag? tag = some (.heading level)) :
    draws d (element tag attrs label children) s = [] := by
  refine (if_neg h).trans ?_
  rw [hk]

theorem draws_other (h : ¬s.isStopped) (hk : ElementKind.ofTag? tag = none) :
    draws d (element tag attrs label children) s =
      drawsAll d children (enterElement tag attrs s).state := by
  refine (if_neg h).trans ?_
  rw [hk]

theorem draws_bareList (h : ¬s.isStopped) (hk : ElementKind.ofTag? tag = some kind)
    (hlist : kind.isList) (he : enterList d kind tag attrs s = (attrs', none, s')) :
    draws d (element tag attrs label children) s = drawsAll d children s' := by
  refine (if_neg h).trans ?_
  rw [hk]
  cases kind with
  | heading => cases hlist
  | orderedList => simp only [he]
  | unorderedList => simp only [he]

theorem draws_list (h : ¬s.isStopped) (hk : ElementKind.ofTag? tag = some kind)
    (hlist : kind.isList) (he : enterList d kind tag attrs s = (attrs', some l, s')) :
    draws d (element tag attrs label children) s = drawsItems d kind children l s' := by
  refine (if_neg h).trans ?_
  rw [hk]
  cases kind with
  | heading => cases hlist
  | orderedList => simp only [he]
  | unorderedList => simp only [he]

theorem drawsItems_stopped (h : s.isStopped) (ns : List Draft) :
    drawsItems d kind ns l s = [] := by
  induction ns with
  | nil => rfl
  | cons n rest ih =>
    cases n with
    | element => exact if_pos h
    | text => exact ih
    | split => exact ih

theorem drawsItems_leaf {n : Draft} (hn : n.Leaf) :
    drawsItems d kind (n :: rest) l s = drawsItems d kind rest l s := by
  cases n with
  | text => rfl
  | split => rfl
  | element => exact (hn _ _ _ _ rfl).elim

theorem drawsItems_item {content : List Draft} (h : ¬s.isStopped) :
    drawsItems d kind (element "li" attrs label content :: rest) l s =
      let e := enterItem d kind l "li" attrs s
      itemDraw d kind l "li" attrs s ++ (drawsAll d content e.1.state ++
        drawsItems d kind rest e.2 (leaveItem e.2 (walkAll d content e.1.state).2)) := by
  exact (if_neg h).trans (if_pos rfl)

theorem drawsItems_other {content : List Draft} (h : ¬s.isStopped) (htag : tag ≠ "li") :
    drawsItems d kind (element tag attrs label content :: rest) l s =
      draws d (element tag attrs label content) s ++
        drawsItems d kind rest l (walk d (element tag attrs label content) s).2 := by
  exact (if_neg h).trans (if_neg htag)

end Cases
end Draft

/-! ## The stylesheet of a walk -/

namespace State
variable (s : State)

@[simp] theorem stylesheet_stop (e : LabelError) : (s.stop e).stylesheet = s.stylesheet := rfl

theorem stylesheet_of_readDirective {s s' : State} {tag : String} {source : Option String}
    {result : Except LabelError (Option Template.Instance)}
    (h : s.readDirective tag source = (result, s')) : s'.stylesheet = s.stylesheet := by
  rw [← s.stylesheet_readDirective tag source, h]

@[simp] theorem stylesheet_start (kind : ElementKind) (template : Template.Instance)
    (styled : Bool) : (s.start kind template styled).2.stylesheet = s.stylesheet := by
  rw [start_eq]

@[simp] theorem stylesheet_replace (old : SeriesId) (kind : ElementKind)
    (template : Template.Instance) (styled : Bool) :
    (s.replace old kind template styled).2.stylesheet = s.stylesheet := by
  rw [replace_eq]

theorem stylesheet_of_headingSeries {s s' : State} {d : Defaults} {level : HeadingLevel}
    {source : Option String} {result : Except LabelError (Option SeriesId)}
    (h : s.headingSeries d level source = (result, s')) : s'.stylesheet = s.stylesheet := by
  rw [headingSeries] at h
  split at h <;> rename_i hr <;> have hread := stylesheet_of_readDirective hr
  · cases h
    exact hread
  · split at h
    · cases h
      exact hread
    · cases h
      simpa using hread
    · split at h
      · cases h
        exact hread
      · cases h
        simpa using hread

theorem stylesheet_of_templateOfList {s s' : State} {d : Defaults} {kind : ElementKind}
    {tag : String} {source : Option String}
    {result : Except LabelError (Option Template.Instance)}
    (h : s.templateOfList d kind tag source = (result, s')) : s'.stylesheet = s.stylesheet := by
  rw [templateOfList] at h
  split at h
  · rename_i hr
    cases h
    exact stylesheet_of_readDirective hr
  · exact stylesheet_of_readDirective h

end State

namespace Walk
open State
variable (d : Defaults)

theorem stylesheet_enterHeading (level : HeadingLevel) (tag : String) (attrs : Attrs) (s : State) :
    (enterHeading d level tag attrs s).state.stylesheet = s.stylesheet := by
  rw [enterHeading]
  split
  · simp
  · split <;> rename_i hr <;> have hseries := stylesheet_of_headingSeries hr
    · exact hseries
    · simpa using hseries
    · simpa using hseries

@[simp] theorem stylesheet_enterElement (tag : String) (attrs : Attrs) (s : State) :
    (enterElement tag attrs s).state.stylesheet = s.stylesheet := by
  simp [enterElement]

theorem stylesheet_enterList {kind : ElementKind} {tag : String} {attrs attrs' : Attrs}
    {l : Option ListState} {s s' : State} (h : enterList d kind tag attrs s = (attrs', l, s')) :
    s'.stylesheet = s.stylesheet := by
  rw [enterList] at h
  dsimp only at h
  split at h <;> rename_i hr <;> have htemplate := stylesheet_of_templateOfList hr <;> cases h
  · exact htemplate
  · simpa using htemplate
  · simpa using htemplate

theorem stylesheet_drawItem (l : ListState) (attrs : Attrs) (s : State) :
    (drawItem d l attrs s).1.state.stylesheet =
      s.stylesheet.addAll ((nextDraw l s).rules d.styled) := by
  rw [nextDraw, ← rules_drawItem _ _ _ _ attrs]
  simp [drawItem]

theorem stylesheet_enterItem (kind : ElementKind) (l : ListState) (tag : String) (attrs : Attrs)
    (s : State) :
    (enterItem d kind l tag attrs s).1.state.stylesheet =
      s.stylesheet.addAll ((itemDraw d kind l tag attrs s).flatMap (Draw.rules d.styled)) := by
  rw [enterItem, itemDraw]
  by_cases hsup : (takeBoth tag attrs).suppressed
  · simp only [hsup, if_true]
    simp [Stylesheet.addAll]
  · simp only [hsup]
    cases hr : (s.warn (takeBoth tag attrs).warnings).readDirective tag (takeBoth tag attrs).source with
    | mk result s' =>
      have hread := stylesheet_of_readDirective hr
      cases result with
      | error e => simpa [Stylesheet.addAll] using hread
      | ok template =>
        cases template with
        | none => simp [stylesheet_drawItem, hread]
        | some template => simp [stylesheet_drawItem, hread]

@[simp] theorem stylesheet_leaveItem (l : ListState) (s : State) :
    (leaveItem l s).stylesheet = s.stylesheet := by
  rw [leaveItem]
  split <;> rfl

@[simp] theorem stylesheet_leaveList (l : ListState) (s : State) :
    (leaveList l s).stylesheet = s.stylesheet := by
  rw [leaveList]
  split <;> rfl

end Walk

theorem Stylesheet.addAll_append (s : Stylesheet) (rules rules' : List Rule) :
    s.addAll (rules ++ rules') = (s.addAll rules).addAll rules' := List.foldl_append

namespace Draft
open State Walk Stylesheet
variable (d : Defaults)

/-- Each part of a walk adds the rules of the labels that it draws to the stylesheet. -/
theorem stylesheet_cases : WalkCases d
    (fun n s => (walk d n s).2.stylesheet = s.stylesheet.addAll ((draws d n s).flatMap (Draw.rules d.styled)))
    (fun ns s =>
      (walkAll d ns s).2.stylesheet = s.stylesheet.addAll ((drawsAll d ns s).flatMap (Draw.rules d.styled)))
    fun kind ns l s => (walkItems d kind ns l s).2.2.stylesheet =
      s.stylesheet.addAll ((drawsItems d kind ns l s).flatMap (Draw.rules d.styled)) where
  stopped n s h := by
    rw [walk_stopped h, draws_stopped h]
    rfl
  leaf n s _ hn := by
    rw [walk_leaf hn, draws_leaf hn]
    rfl
  heading level tag attrs label children s h hk := by
    rw [walk_heading h hk, draws_heading h hk]
    exact stylesheet_enterHeading d level tag attrs s
  other tag attrs label children s h hk hchildren := by
    rw [walk_other h hk, draws_other h hk, hchildren, stylesheet_enterElement]
  bareList kind tag attrs attrs' label children s s' h hk hlist he hchildren := by
    rw [walk_bareList h hk hlist he, draws_bareList h hk hlist he, hchildren, stylesheet_enterList d he]
  list kind tag attrs attrs' label children l s s' h hk hlist he hchildren := by
    rw [walk_list h hk hlist he, draws_list h hk hlist he, stylesheet_leaveList, hchildren,
      stylesheet_enterList d he]
  nil s := rfl
  cons n rest s hn hrest := by
    rw [walkAll_cons, drawsAll, List.flatMap_append, addAll_append, hrest, hn]
  itemsStopped kind ns l s h := by
    rw [walkItems_stopped h, drawsItems_stopped h]
    rfl
  itemsNil kind l s _ := rfl
  itemsLeaf kind n rest l s _ hn hrest := by
    rw [walkItems_leaf hn, drawsItems_leaf hn]
    exact hrest
  item kind attrs label content rest l s h hcontent hrest := by
    rw [walkItems_item h, drawsItems_item h]
    simp only [List.flatMap_append, addAll_append]
    rw [hrest, stylesheet_leaveItem, hcontent, stylesheet_enterItem]
  itemsOther kind tag attrs label content rest l s h hli hn hrest := by
    rw [walkItems_other h hli, drawsItems_other h hli]
    simp only [List.flatMap_append, addAll_append]
    rw [hrest, hn]

/-- A walk adds the rules of the labels that it draws to the stylesheet. -/
theorem walk_stylesheet (n : Draft) (s : State) :
    (walk d n s).2.stylesheet = s.stylesheet.addAll ((draws d n s).flatMap (Draw.rules d.styled)) :=
  (stylesheet_cases d).walk n s

end Draft

/-! ## Where labels are drawn -/

/-- A series with the styling of the run. -/
def Roster.StyledAs (r : Roster) (styled : Bool) (id : SeriesId) : Prop :=
  ∃ v, r.view? id = some v ∧ v.styled = styled

theorem Roster.Grows.styledAs {r r' : Roster} (h : r.Grows r') {styled : Bool} {id : SeriesId}
    (hid : r.StyledAs styled id) : r'.StyledAs styled id := by
  obtain ⟨v, hv, hs⟩ := hid
  obtain ⟨n, hn⟩ := h.view id v hv
  exact ⟨_, hn, hs⟩

/-- A label is drawn in a state on the way from one state to another, by a series of the run. -/
def State.Passes (d : Defaults) (s s' : State) (w : Draw) : Prop :=
  ∃ t, Steps d s t ∧ Steps d t s' ∧ w.roster = t.scope.roster ∧ w.roster.StyledAs d.styled w.series

namespace State
variable {d : Defaults} {s s' t t' : State} {w : Draw}

theorem Passes.mono (h : Passes d s s' w) (hs : Steps d t s) (hs' : Steps d s' t') :
    Passes d t t' w := by
  obtain ⟨u, hu, hu', hw⟩ := h
  exact ⟨u, hs.trans hu, hu'.trans hs', hw⟩

theorem styledAs_start (s : State) (kind : ElementKind) (template : Template.Instance)
    (styled : Bool) :
    (s.start kind template styled).2.scope.roster.StyledAs styled
      (s.start kind template styled).1 := by
  rw [start_eq]
  exact ⟨_, Roster.view?_create_self .., rfl⟩

theorem styledAs_replace (s : State) (old : SeriesId) (kind : ElementKind)
    (template : Template.Instance) (styled : Bool) :
    (s.replace old kind template styled).2.scope.roster.StyledAs styled
      (s.replace old kind template styled).1 := by
  rw [replace_eq]
  obtain ⟨gone, hsh, -⟩ := Scope.shrinks_replace (s.scope.create kind template
    ((s.scope.roster.get? old).bind Series.parent) styled).2 old s.scope.roster.series.size
  exact ⟨_, (hsh.view _).trans (Roster.view?_create_self ..), rfl⟩

end State

namespace Walk
open State
variable {d : Defaults}

theorem passes_nextDraw {l : ListState} {s : State} (attrs : Attrs)
    (h : s.scope.roster.StyledAs d.styled l.series) :
    Passes d s (drawItem d l attrs s).1.state (nextDraw l s) ∧
      (drawItem d l attrs s).1.state.scope.roster.StyledAs d.styled
        (drawItem d l attrs s).2.series := by
  have hnext : (s.scope.roster.increment l.series).StyledAs d.styled l.series :=
    (Roster.grows_increment _ _).styledAs h
  refine ⟨⟨s.increment l.series, (Step.increment _).one, ?_, rfl, hnext⟩, ?_⟩
  · rw [drawItem]
    exact .keep (by simp) (by simp)
  · rw [series_drawItem, scope_drawItem]
    exact hnext

theorem passes_itemDraw (kind : ElementKind) {l : ListState} (tag : String) (attrs : Attrs)
    {s : State} (h : s.scope.roster.StyledAs d.styled l.series) :
    (∀ w ∈ itemDraw d kind l tag attrs s,
        Passes d s (enterItem d kind l tag attrs s).1.state w) ∧
      (enterItem d kind l tag attrs s).1.state.scope.roster.StyledAs d.styled
        (enterItem d kind l tag attrs s).2.series := by
  rw [enterItem, itemDraw]
  by_cases hsup : (takeBoth tag attrs).suppressed
  · simp only [hsup, if_true]
    exact ⟨by simp, by simpa using h⟩
  · simp only [hsup]
    have hread := (steps_warn d s (takeBoth tag attrs).warnings).trans
      (Step.read (d := d) tag (takeBoth tag attrs).source).one
    cases hr : (s.warn (takeBoth tag attrs).warnings).readDirective tag (takeBoth tag attrs).source with
    | mk result s' =>
      rw [hr] at hread
      have h' := hread.grows.styledAs h
      cases result with
      | error e => exact ⟨by simp, h'⟩
      | ok template =>
        cases template with
        | none =>
          obtain ⟨hdraw, hafter⟩ := passes_nextDraw (takeBoth tag attrs).attrs h'
          refine ⟨fun w hw => ?_, hafter⟩
          rw [List.mem_singleton.1 hw]
          exact hdraw.mono hread (.refl _)
        | some template =>
          obtain ⟨hdraw, hafter⟩ := passes_nextDraw (l := { l with
            series := (s'.replace l.series kind template d.styled).1 }) (takeBoth tag attrs).attrs
            (styledAs_replace s' l.series kind template d.styled)
          refine ⟨fun w hw => ?_, hafter⟩
          rw [List.mem_singleton.1 hw]
          exact hdraw.mono (hread.trans (Step.replace (.directive (holds_readDirective hr))).one)
            (.refl _)

theorem styledAs_enterList {kind : ElementKind} {tag : String} {attrs attrs' : Attrs}
    {l : ListState} {s s' : State} (h : enterList d kind tag attrs s = (attrs', some l, s')) :
    s'.scope.roster.StyledAs d.styled l.series := by
  rw [enterList] at h
  dsimp only at h
  split at h <;> cases h
  have := styledAs_start ‹State› kind ‹Template.Instance› d.styled
  simpa using this

end Walk

namespace Draft
open State Walk
variable (d : Defaults)

theorem draws_cases : WalkCases d (fun n s => ∀ w ∈ draws d n s, Passes d s (walk d n s).2 w)
    (fun ns s => ∀ w ∈ drawsAll d ns s, Passes d s (walkAll d ns s).2 w)
    fun kind ns l s => s.scope.roster.StyledAs d.styled l.series →
      ∀ w ∈ drawsItems d kind ns l s, Passes d s (walkItems d kind ns l s).2.2 w where
  stopped n s h := by simp [draws_stopped h]
  leaf n s _ hn := by simp [draws_leaf hn]
  heading level tag attrs label children s h hk := by simp [draws_heading h hk]
  other tag attrs label children s h hk hchildren := by
    rw [walk_other h hk, draws_other h hk]
    exact fun w hw => (hchildren w hw).mono (enterElement_steps d tag attrs s) (.refl _)
  bareList kind tag attrs attrs' label children s s' h hk hlist he hchildren := by
    have henter := steps_of_enterList he
    rw [walk_bareList h hk hlist he, draws_bareList h hk hlist he]
    exact fun w hw => (hchildren w hw).mono henter (.refl _)
  list kind tag attrs attrs' label children l s s' h hk hlist he hchildren := by
    have henter := steps_of_enterList he
    rw [walk_list h hk hlist he, draws_list h hk hlist he]
    exact fun w hw => (hchildren (styledAs_enterList he) w hw).mono henter (leaveList_steps d _ _)
  nil s := by simp [drawsAll]
  cons n rest s hn hrest := by
    rw [walkAll_cons, drawsAll]
    intro w hw
    rcases List.mem_append.1 hw with hw | hw
    · exact (hn w hw).mono (.refl _) (walkAll_steps d rest _)
    · exact (hrest w hw).mono (walk_steps d n s) (.refl _)
  itemsStopped kind ns l s h _ := by simp [drawsItems_stopped h]
  itemsNil kind l s _ _ := by simp [drawsItems]
  itemsLeaf kind n rest l s _ hn hrest hl := by
    rw [walkItems_leaf hn, drawsItems_leaf hn]
    exact hrest hl
  item kind attrs label content rest l s h hcontent hrest hl := by
    rw [walkItems_item h, drawsItems_item h]
    have henter := enterItem_steps d kind l "li" attrs s
    obtain ⟨hdraw, hstyled⟩ := passes_itemDraw kind "li" attrs hl
    have hinside := walkAll_steps d content (enterItem d kind l "li" attrs s).1.state
    have hleave := leaveItem_steps d (enterItem d kind l "li" attrs s).2
      (walkAll d content (enterItem d kind l "li" attrs s).1.state).2
    have hbehind := walkItems_steps d kind rest (enterItem d kind l "li" attrs s).2
      (leaveItem (enterItem d kind l "li" attrs s).2
        (walkAll d content (enterItem d kind l "li" attrs s).1.state).2)
    intro w hw
    rcases List.mem_append.1 hw with hw | hw
    · exact (hdraw w hw).mono (.refl _) (hinside.trans (hleave.trans hbehind))
    rcases List.mem_append.1 hw with hw | hw
    · exact (hcontent w hw).mono henter (hleave.trans hbehind)
    · have hback := (hinside.trans hleave).grows.styledAs hstyled
      exact (hrest hback w hw).mono (henter.trans (hinside.trans hleave)) (.refl _)
  itemsOther kind tag attrs label content rest l s h hli hn hrest hl := by
    rw [walkItems_other h hli, drawsItems_other h hli]
    have hfirst := walk_steps d (element tag attrs label content) s
    intro w hw
    rcases List.mem_append.1 hw with hw | hw
    · exact (hn w hw).mono (.refl _) (walkItems_steps d kind rest l _)
    · exact (hrest (hfirst.grows.styledAs hl) w hw).mono hfirst (.refl _)

/-- The labels of a walk are drawn on its way. -/
theorem walk_draws (n : Draft) (s : State) : ∀ w ∈ draws d n s, Passes d s (walk d n s).2 w :=
  (draws_cases d).walk n s

end Draft
end Rubric
