import Rubric.Labelling.Run

/-!
# The walk, case by case

What a walk does with each form of a node, in a state that has not been stopped, and how a run that
succeeds has come about (`Labelling.exists_walk`). `Draft.Leaf` is what is not an element: a walk passes it
by.
-/

namespace Rubric

theorem ElementKind.exists_heading {kind : ElementKind} (h : ¬kind.isList) :
    ∃ level, kind = heading level := by
  cases kind with
  | heading level => exact ⟨level, rfl⟩
  | orderedList => exact absurd rfl h
  | unorderedList => exact absurd rfl h

namespace Draft
variable {tag : String} {kind : ElementKind}

theorem not_heading_of_none (hk : ElementKind.ofTag? tag = none) (level : HeadingLevel) :
    ElementKind.ofTag? tag ≠ some (.heading level) := fun h => by
  rw [hk] at h
  cases h

theorem not_heading_of_list (hk : ElementKind.ofTag? tag = some kind) (hlist : kind.isList)
    (level : HeadingLevel) : ElementKind.ofTag? tag ≠ some (.heading level) := fun h => by
  cases hk.symm.trans h
  cases hlist

theorem ofTag?_li : ElementKind.ofTag? "li" = none := by decide

theorem not_heading_li : ∀ level, ElementKind.ofTag? "li" ≠ some (.heading level) :=
  not_heading_of_none ofTag?_li

theorem ne_li (hk : ElementKind.ofTag? tag = some kind) : tag ≠ "li" := by
  rintro rfl
  rw [ofTag?_li] at hk
  cases hk

end Draft

/-! ## Headings -/

namespace Walk
variable {d : Defaults} {level : HeadingLevel} {tag : String} {attrs : Attrs} {s s' : State}

/-- The state in which a heading looks for its series. -/
def closed (level : HeadingLevel) (tag : String) (attrs : Attrs) (s : State) : State :=
  { s with scope := s.scope.closeBelow level }.warn (takeBoth tag attrs).warnings

theorem enterHeading_unlabelled (h : (takeBoth tag attrs).suppressed = true) :
    enterHeading d level tag attrs s =
      ⟨(takeBoth tag attrs).attrs, none,
        ((closed level tag attrs s).warn ((takeBoth tag attrs).conflicts tag)).resolve
          (takeBoth tag attrs).attrs⟩ := by
  rw [enterHeading, if_pos h, closed]

theorem enterHeading_failed {e : LabelError} (h : (takeBoth tag attrs).suppressed = false)
    (hseries : (closed level tag attrs s).headingSeries d level (takeBoth tag attrs).source =
      (.error e, s')) :
    enterHeading d level tag attrs s = ⟨(takeBoth tag attrs).attrs, none, s'.stop e⟩ := by
  rw [closed] at hseries
  rw [enterHeading, if_neg (by simp [h])]
  simp only [hseries]

theorem enterHeading_bare (h : (takeBoth tag attrs).suppressed = false)
    (hseries : (closed level tag attrs s).headingSeries d level (takeBoth tag attrs).source =
      (.ok none, s')) :
    enterHeading d level tag attrs s =
      ⟨(takeBoth tag attrs).attrs, none, s'.resolve (takeBoth tag attrs).attrs⟩ := by
  rw [closed] at hseries
  rw [enterHeading, if_neg (by simp [h])]
  simp only [hseries]

theorem enterHeading_labelled {id : SeriesId} (h : (takeBoth tag attrs).suppressed = false)
    (hseries : (closed level tag attrs s).headingSeries d level (takeBoth tag attrs).source =
      (.ok (some id), s')) :
    enterHeading d level tag attrs s =
      ⟨(takeBoth tag attrs).attrs, some ((s'.increment id).scope.roster.text id),
        (s'.increment id).resolve (takeBoth tag attrs).attrs⟩ := by
  rw [closed] at hseries
  rw [enterHeading, if_neg (by simp [h])]
  simp only [hseries]

end Walk

/-! ## Items -/

namespace Walk
variable {d : Defaults} {kind : ElementKind} {l : ListState} {tag : String} {attrs : Attrs}
  {s s' : State}

theorem enterItem_unlabelled (h : (takeBoth tag attrs).suppressed = true) :
    enterItem d kind l tag attrs s =
      let ds := takeBoth tag attrs
      let attrs := ds.attrs.addClass Css.noLabelClass
      (⟨attrs, none, ((s.warn ds.warnings).warn (ds.conflicts tag)).resolve attrs⟩, l) := by
  rw [enterItem, if_pos h]

theorem enterItem_failed {e : LabelError} (h : (takeBoth tag attrs).suppressed = false)
    (hread : (s.warn (takeBoth tag attrs).warnings).readDirective tag (takeBoth tag attrs).source =
      (.error e, s')) :
    enterItem d kind l tag attrs s = (⟨(takeBoth tag attrs).attrs, none, s'.stop e⟩, l) := by
  rw [enterItem, if_neg (by simp [h])]
  simp only [hread]

theorem enterItem_drawn (h : (takeBoth tag attrs).suppressed = false)
    (hread : (s.warn (takeBoth tag attrs).warnings).readDirective tag (takeBoth tag attrs).source =
      (.ok none, s')) :
    enterItem d kind l tag attrs s = drawItem d l (takeBoth tag attrs).attrs s' := by
  rw [enterItem, if_neg (by simp [h])]
  simp only [hread]

theorem enterItem_replaced {template : Template.Instance} (h : (takeBoth tag attrs).suppressed = false)
    (hread : (s.warn (takeBoth tag attrs).warnings).readDirective tag (takeBoth tag attrs).source =
      (.ok (some template), s')) :
    enterItem d kind l tag attrs s =
      drawItem d { l with series := (s'.replace l.series kind template d.styled).1 }
        (takeBoth tag attrs).attrs (s'.replace l.series kind template d.styled).2 := by
  rw [enterItem, if_neg (by simp [h])]
  simp only [hread]

end Walk

namespace Draft
open Walk

def Leaf (n : Draft) : Prop := ∀ tag attrs label content, n ≠ element tag attrs label content

theorem leaf_text (content : String) : (text content).Leaf := fun _ _ _ _ h => by cases h

theorem leaf_split (target : String) (pieces : List Piece) : (split target pieces).Leaf :=
  fun _ _ _ _ h => by cases h

theorem leaf_or_element (n : Draft) : n.Leaf ∨ ∃ tag attrs label content, n = element tag attrs label content := by
  cases n with
  | text content => exact Or.inl (leaf_text content)
  | split target pieces => exact Or.inl (leaf_split target pieces)
  | element tag attrs label content => exact Or.inr ⟨tag, attrs, label, content, rfl⟩

variable {d : Defaults} {kind : ElementKind} {tag : String} {attrs attrs' : Attrs}
  {label : Option String} {children rest : List Draft} {l : ListState} {s s' : State}

/-! ## Nodes -/

theorem walk_leaf {n : Draft} (hn : n.Leaf) (s : State) : walk d n s = (n, s) := by
  cases n with
  | text => exact walk_text ..
  | split => exact walk_split ..
  | element => exact (hn _ _ _ _ rfl).elim

theorem walk_stopped (h : s.isStopped) (n : Draft) : walk d n s = (n, s) := by
  cases n with
  | text => exact walk_text ..
  | split => exact walk_split ..
  | element => exact if_pos h

theorem walk_heading {level : HeadingLevel} (h : ¬s.isStopped)
    (hk : ElementKind.ofTag? tag = some (.heading level)) :
    walk d (element tag attrs label children) s =
      (element tag (enterHeading d level tag attrs s).attrs (enterHeading d level tag attrs s).label
        children, (enterHeading d level tag attrs s).state) := by
  refine (if_neg h).trans ?_
  rw [hk]

theorem walk_other (h : ¬s.isStopped) (hk : ElementKind.ofTag? tag = none) :
    walk d (element tag attrs label children) s =
      (element tag (enterElement tag attrs s).attrs label
        (walkAll d children (enterElement tag attrs s).state).1,
        (walkAll d children (enterElement tag attrs s).state).2) := by
  refine (if_neg h).trans ?_
  rw [hk]

theorem walk_bareList (h : ¬s.isStopped) (hk : ElementKind.ofTag? tag = some kind)
    (hlist : kind.isList) (he : enterList d kind tag attrs s = (attrs', none, s')) :
    walk d (element tag attrs label children) s =
      (element tag attrs' label (walkAll d children s').1, (walkAll d children s').2) := by
  refine (if_neg h).trans ?_
  rw [hk]
  cases kind with
  | heading => cases hlist
  | orderedList => simp only [he]
  | unorderedList => simp only [he]

theorem walk_list (h : ¬s.isStopped) (hk : ElementKind.ofTag? tag = some kind)
    (hlist : kind.isList) (he : enterList d kind tag attrs s = (attrs', some l, s')) :
    walk d (element tag attrs label children) s =
      (element tag ((walkItems d kind children l s').2.1.classes.foldl Attrs.addClass attrs') label
        (walkItems d kind children l s').1,
        leaveList (walkItems d kind children l s').2.1 (walkItems d kind children l s').2.2) := by
  refine (if_neg h).trans ?_
  rw [hk]
  cases kind with
  | heading => cases hlist
  | orderedList => simp only [he]
  | unorderedList => simp only [he]

/-! ## Nodes in a row -/

theorem walkAll_nil : walkAll d [] s = ([], s) := by rw [walkAll]

theorem walkAll_cons (n : Draft) :
    walkAll d (n :: rest) s =
      ((walk d n s).1 :: (walkAll d rest (walk d n s).2).1, (walkAll d rest (walk d n s).2).2) := by
  rw [walkAll]

theorem walkAll_stopped (h : s.isStopped) (ns : List Draft) : walkAll d ns s = (ns, s) := by
  induction ns with
  | nil => exact walkAll_nil
  | cons n rest ih => rw [walkAll_cons, walk_stopped h, ih]

/-! ## The children of a list -/

theorem walkItems_nil : walkItems d kind [] l s = ([], l, s) := by rw [walkItems]

theorem walkItems_leaf {n : Draft} (hn : n.Leaf) :
    walkItems d kind (n :: rest) l s =
      (n :: (walkItems d kind rest l s).1, (walkItems d kind rest l s).2) := by
  cases n with
  | text => rfl
  | split => rfl
  | element => exact (hn _ _ _ _ rfl).elim

/-- An item: what stands before it in the list decides its series. -/
theorem walkItems_item {content : List Draft} (h : ¬s.isStopped) :
    walkItems d kind (element "li" attrs label content :: rest) l s =
      let e := enterItem d kind l "li" attrs s
      let w := walkAll d content e.1.state
      let r := walkItems d kind rest e.2 (leaveItem e.2 w.2)
      (element "li" e.1.attrs e.1.label w.1 :: r.1, r.2) := by
  exact (if_neg h).trans (if_pos rfl)

theorem walkItems_other {content : List Draft} (h : ¬s.isStopped) (htag : tag ≠ "li") :
    walkItems d kind (element tag attrs label content :: rest) l s =
      ((walk d (element tag attrs label content) s).1 ::
        (walkItems d kind rest l (walk d (element tag attrs label content) s).2).1,
        (walkItems d kind rest l (walk d (element tag attrs label content) s).2).2) := by
  exact (if_neg h).trans (if_neg htag)

theorem walkItems_stopped (h : s.isStopped) (ns : List Draft) :
    walkItems d kind ns l s = (ns, l, s) := by
  induction ns with
  | nil => exact walkItems_nil
  | cons n rest ih =>
    cases n with
    | element => exact if_pos h
    | text => rw [walkItems_leaf (leaf_text _), ih]
    | split => rw [walkItems_leaf (leaf_split _ _), ih]

end Draft

/-! ## Whole runs -/

theorem State.result_of_running {s : State} (h : s.failure = none) :
    s.result = .ok ⟨s.stylesheet, s.warnings⟩ := by
  rw [result, h]

theorem Labelling.apply_of_read {l : Labelling} {c c' : Template.Context} {d : Defaults}
    (h : Defaults.ofSettings c l.settings = (.ok d, c')) (doc : Node) :
    let marked := (Draft.ofNode doc).markRefs none
    let walked := marked.walk d (begin c' marked)
    l.apply c doc = ⟨walked.1.toNode l.typeset walked.2.refs, walked.2.result, walked.2.context⟩ := by
  rw [apply, draft, h]

/-- A run that succeeds has read its settings and has walked to the end. -/
theorem Labelling.exists_walk {l : Labelling} {c : Template.Context} {doc : Node}
    {report : LabelReport} (h : (l.apply c doc).result = .ok report) :
    ∃ d c' out s, Defaults.ofSettings c l.settings = (.ok d, c') ∧
      ((Draft.ofNode doc).markRefs none).walk d (begin c' ((Draft.ofNode doc).markRefs none)) =
        (out, s) ∧
      l.draft c (.ofNode doc) = ⟨out, s⟩ ∧ s.failure = none ∧
      report = ⟨s.stylesheet, s.warnings⟩ := by
  have hresult : (l.draft c (.ofNode doc)).state.result = .ok report := h
  rw [Labelling.draft] at hresult ⊢
  rcases hread : Defaults.ofSettings c l.settings with ⟨e | d, c'⟩
  · rw [hread] at hresult
    cases hresult
  · rw [hread] at hresult
    dsimp only at hresult ⊢
    rcases hwalk : ((Draft.ofNode doc).markRefs none).walk d
      (begin c' ((Draft.ofNode doc).markRefs none)) with ⟨out, s⟩
    rw [hwalk, State.result] at hresult
    cases hfailure : s.failure with
    | some e =>
      rw [hfailure] at hresult
      cases hresult
    | none =>
      rw [hfailure] at hresult
      exact ⟨d, c', out, s, rfl, hwalk, rfl, hfailure, (Except.ok.inj hresult).symm⟩

end Rubric
