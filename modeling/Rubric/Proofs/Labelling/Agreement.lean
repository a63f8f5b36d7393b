import Rubric.Proofs.Labelling.Draws
import Rubric.Proofs.Labelling.Modes
import Rubric.Proofs.Tree.Attrs

/-!
# What the mode does not change

Two runs over one document, one in each mode, differ in the labels of list items and in styling alone.

* `Attrs.unstyled`, `Draft.unstyled`, `Node.unstyled` : everything but classes and styles. The mark of
  items without a label is kept;
* `Draft.withoutItemLabels` : a draft without the labels that stand in items;
* `State.Alike s t` : two states that differ in their stylesheets and in what only counters need;
* `Draft.Concurs n m` : two drafts that differ in the labels of items and in styling;
* `walk_alike` : walks in the two modes keep states and drafts alike;
* `Labelling.modes_agree` : what two runs have in common.
-/

namespace Rubric

/-! ## Without styling -/

/-- Attributes without class and style. Of the classes the mark of items without a label is kept. -/
def Attrs.unstyled (attrs : Attrs) : Attrs :=
  (if attrs.hasClass Css.noLabelClass then [("class", Css.noLabelClass)] else []) ++
    (attrs.erase "class").erase "style"

namespace Node

mutual
def unstyled : Node → Node
  | text content => text content
  | element tag attrs children => element tag attrs.unstyled (unstyledAll children)

def unstyledAll : List Node → List Node
  | [] => []
  | n :: rest => unstyled n :: unstyledAll rest
end

end Node

namespace Draft

mutual
def unstyled : Draft → Draft
  | text content => text content
  | split target pieces => split target pieces
  | element tag attrs label children => element tag attrs.unstyled label (unstyledAll children)

def unstyledAll : List Draft → List Draft
  | [] => []
  | n :: rest => unstyled n :: unstyledAll rest
end

mutual
/-- A draft without the labels that stand in items. -/
def withoutItemLabels : Draft → Draft
  | text content => text content
  | split target pieces => split target pieces
  | element tag attrs label children =>
    element tag attrs (if tag = "li" then none else label) (withoutItemLabelsAll children)

def withoutItemLabelsAll : List Draft → List Draft
  | [] => []
  | n :: rest => withoutItemLabels n :: withoutItemLabelsAll rest
end

mutual
def Unlabelled : Draft → Prop
  | text _ | split _ _ => True
  | element _ _ label children => label = none ∧ UnlabelledAll children

def UnlabelledAll : List Draft → Prop
  | [] => True
  | n :: rest => Unlabelled n ∧ UnlabelledAll rest
end

mutual
theorem withoutItemLabels_of_unlabelled {n : Draft} (h : n.Unlabelled) : n.withoutItemLabels = n := by
  cases n with
  | text content => rfl
  | split target pieces => rfl
  | element tag attrs label children =>
    obtain ⟨rfl, hchildren⟩ := h
    rw [withoutItemLabels, ite_self, withoutItemLabelsAll_of_unlabelled hchildren]

theorem withoutItemLabelsAll_of_unlabelled {ns : List Draft} (h : UnlabelledAll ns) :
    withoutItemLabelsAll ns = ns := by
  cases ns with
  | nil => rfl
  | cons n rest =>
    rw [withoutItemLabelsAll, withoutItemLabels_of_unlabelled h.1, withoutItemLabelsAll_of_unlabelled h.2]
end

mutual
theorem unlabelled_ofNode (n : Node) : (ofNode n).Unlabelled := by
  cases n with
  | text content => trivial
  | element tag attrs children => exact ⟨rfl, unlabelledAll_ofNodes children⟩

theorem unlabelledAll_ofNodes (ns : List Node) : UnlabelledAll (ofNodes ns) := by
  cases ns with
  | nil => trivial
  | cons n rest => exact ⟨unlabelled_ofNode n, unlabelledAll_ofNodes rest⟩
end

mutual
theorem Unlabelled.markRefs {n : Draft} (h : n.Unlabelled) (target : Option String) :
    (n.markRefs target).Unlabelled := by
  cases n with
  | text content =>
    cases target with
    | none => trivial
    | some target =>
      rw [Draft.markRefs, Option.elim_some, markText]
      split <;> trivial
  | split target pieces => trivial
  | element tag attrs label children => exact ⟨h.1, UnlabelledAll.markRefsAll h.2 _⟩

theorem UnlabelledAll.markRefsAll {ns : List Draft} (h : UnlabelledAll ns) (target : Option String) :
    UnlabelledAll (Draft.markRefsAll target ns) := by
  cases ns with
  | nil => trivial
  | cons n rest => exact ⟨Unlabelled.markRefs h.1 target, UnlabelledAll.markRefsAll h.2 target⟩
end

end Draft

namespace Attrs

theorem unstyled_addClass {name : String} (h : Css.IsLabelClass name) (attrs : Attrs) :
    (attrs.addClass name).unstyled = attrs.unstyled := by
  have hmark : (Css.noLabelClass == name) = false := by simpa using Ne.symm h.ne_noLabelClass
  rw [unstyled, hasClass_addClass (Or.inl h), erase_addClass, hmark, Bool.or_false, unstyled]

theorem unstyled_addStyle (attrs : Attrs) (declaration : String) :
    (attrs.addStyle declaration).unstyled = attrs.unstyled := by
  rw [unstyled, hasClass, classes_addStyle, ← hasClass, erase_comm, erase_addStyle, erase_comm, unstyled]

theorem Dressed.unstyled_eq {attrs attrs' : Attrs} (h : attrs.Dressed attrs') :
    attrs'.unstyled = attrs.unstyled := by
  induction h with
  | refl => rfl
  | addClass _ hname ih => rw [unstyled_addClass hname, ih]
  | addStyle _ key ih => rw [unstyled_addStyle, ih]

theorem get?_unstyled (attrs : Attrs) {name : String} (hclass : name ≠ "class") (hstyle : name ≠ "style") :
    attrs.unstyled.get? name = attrs.get? name := by
  have herased : ((attrs.erase "class").erase "style").get? name = attrs.get? name := by
    rw [get?_erase_of_ne _ hstyle, get?_erase_of_ne _ hclass]
  rw [unstyled]
  split
  · rw [List.singleton_append, get?, if_neg (Ne.symm hclass), herased]
  · exact herased

theorem unstyled_unstyled (attrs : Attrs) : attrs.unstyled.unstyled = attrs.unstyled := by
  have herased : (attrs.unstyled.erase "class").erase "style" = (attrs.erase "class").erase "style" := by
    have hrest : (((attrs.erase "class").erase "style").erase "class").erase "style" =
        (attrs.erase "class").erase "style" := by
      rw [erase_comm (attrs.erase "class"), erase_erase, erase_erase]
    rw [unstyled]
    split
    · exact hrest
    · exact hrest
  have hmark : attrs.unstyled.hasClass Css.noLabelClass = attrs.hasClass Css.noLabelClass := by
    cases h : attrs.hasClass Css.noLabelClass with
    | true =>
      rw [unstyled, if_pos h]
      rfl
    | false =>
      have hnone : ((attrs.erase "class").erase "style").get? "class" = none := by
        rw [get?_erase_of_ne _ (by decide), get?_erase_self]
      rw [unstyled, if_neg (by simp [h]), List.nil_append, hasClass, classes, hnone]
      rfl
  rw [unstyled, hmark, herased, unstyled]

end Attrs

namespace Node

theorem unstyledAll_append (ns ms : List Node) :
    unstyledAll (ns ++ ms) = unstyledAll ns ++ unstyledAll ms := by
  induction ns with
  | nil => rfl
  | cons n rest ih => rw [List.cons_append, unstyledAll, unstyledAll, ih, List.cons_append]

end Node

namespace Draft

mutual
theorem unstyledAll_toNodes (typeset : Typesetting) (table : RefTable) (n : Draft) :
    Node.unstyledAll (n.unstyled.toNodes typeset table) = Node.unstyledAll (n.toNodes typeset table) := by
  cases n with
  | text content => rfl
  | split target pieces => rfl
  | element tag attrs label children =>
    simp only [unstyled, toNodes, Node.unstyledAll, Node.unstyled, Attrs.unstyled_unstyled,
      Node.unstyledAll_append, unstyledAll_toNodesAll typeset table children]

theorem unstyledAll_toNodesAll (typeset : Typesetting) (table : RefTable) (ns : List Draft) :
    Node.unstyledAll (toNodesAll typeset table (unstyledAll ns)) =
      Node.unstyledAll (toNodesAll typeset table ns) := by
  cases ns with
  | nil => rfl
  | cons n rest =>
    rw [unstyledAll, toNodesAll, toNodesAll, Node.unstyledAll_append, Node.unstyledAll_append,
      unstyledAll_toNodes typeset table n, unstyledAll_toNodesAll typeset table rest]
end

theorem unstyled_toNode {typeset : Typesetting} {table : RefTable} {n m : Draft}
    (h : n.unstyled = m.unstyled) :
    (n.toNode typeset table).unstyled = (m.toNode typeset table).unstyled := by
  have hall : Node.unstyledAll (n.toNodes typeset table) = Node.unstyledAll (m.toNodes typeset table) := by
    rw [← unstyledAll_toNodes, h, unstyledAll_toNodes]
  rw [toNode, toNode]
  have hroot : ∀ {ns ms : List Node}, Node.unstyledAll ns = Node.unstyledAll ms →
      (Node.root ns).unstyled = (Node.root ms).unstyled := fun hall => congrArg (Node.element _ _) hall
  generalize n.toNodes typeset table = ns at hall ⊢
  generalize m.toNodes typeset table = ms at hall ⊢
  rcases ns with _ | ⟨a, _ | ⟨a', ns⟩⟩
  · rcases ms with _ | ⟨b, ms⟩
    · exact hroot hall
    · simp [Node.unstyledAll] at hall
  · rcases ms with _ | ⟨b, _ | ⟨b', ms⟩⟩
    · simp [Node.unstyledAll] at hall
    · exact List.head_eq_of_cons_eq hall
    · simp [Node.unstyledAll] at hall
  · rcases ms with _ | ⟨b, _ | ⟨b', ms⟩⟩
    · simp [Node.unstyledAll] at hall
    · simp [Node.unstyledAll] at hall
    · exact hroot hall

end Draft

/-! ## States -/

namespace State
variable {s t : State}

/-- Two states that differ in their stylesheets and in what only counters need. -/
structure Alike (s t : State) : Prop where
  scope : s.scope.erased = t.scope.erased
  context : s.context = t.context
  refs : s.refs = t.refs
  warnings : s.warnings = t.warnings
  failure : s.failure = t.failure

/-- What is looked up in scope does not depend on whether the run has been stopped. -/
theorem Alike.running (h : Alike s t) : Twin { s with failure := none } { t with failure := none } :=
  ⟨h.scope, rfl, rfl⟩

theorem Alike.isStopped_eq (h : Alike s t) : s.isStopped = t.isStopped := by
  rw [isStopped, isStopped, h.failure]

theorem Alike.label?_eq (h : Alike s t) : s.scope.label? = t.scope.label? := by
  funext selector
  rw [← Scope.label?_erased, h.scope, Scope.label?_erased]

theorem Alike.with_scope (h : Alike s t) {scope scope' : Scope} (hscope : scope.erased = scope'.erased) :
    Alike { s with scope } { t with scope := scope' } :=
  ⟨hscope, h.context, h.refs, h.warnings, h.failure⟩

theorem Alike.warn (h : Alike s t) (ws : List Warning) : Alike (s.warn ws) (t.warn ws) :=
  ⟨h.scope, h.context, h.refs, congrArg (· ++ ws) h.warnings, h.failure⟩

theorem Alike.stop (h : Alike s t) (e : LabelError) : Alike (s.stop e) (t.stop e) :=
  ⟨h.scope, h.context, h.refs, h.warnings, rfl⟩

theorem Alike.addRules (h : Alike s t) (rules rules' : List Rule) :
    Alike (s.addRules rules) (t.addRules rules') :=
  ⟨h.scope, h.context, h.refs, h.warnings, h.failure⟩

theorem Alike.increment (h : Alike s t) (id : SeriesId) : Alike (s.increment id) (t.increment id) :=
  h.with_scope (by rw [Scope.erased_increment, Scope.erased_increment, h.scope])

theorem Alike.endBelow (h : Alike s t) (id : SeriesId) : Alike (s.endBelow id) (t.endBelow id) :=
  h.with_scope (by rw [Scope.erased_endBelow, Scope.erased_endBelow, h.scope])

theorem Alike.closeBelow (h : Alike s t) (level : HeadingLevel) :
    Alike { s with scope := s.scope.closeBelow level } { t with scope := t.scope.closeBelow level } :=
  h.with_scope (by rw [Scope.erased_closeBelow, Scope.erased_closeBelow, h.scope])

theorem Alike.resolve (h : Alike s t) {attrs attrs' : Attrs} (hid : attrs.get? "id" = attrs'.get? "id") :
    Alike (s.resolve attrs) (t.resolve attrs') := by
  rw [State.resolve, State.resolve, hid]
  cases attrs'.get? "id" with
  | none => exact h
  | some target =>
    refine ⟨h.scope, h.context, ?_, h.warnings, h.failure⟩
    show s.refs.resolve target s.scope.label? = t.refs.resolve target t.scope.label?
    rw [h.refs, h.label?_eq]

theorem Alike.readDirective (h : Alike s t) (tag : String) (source : Option String) :
    (s.readDirective tag source).1 = (t.readDirective tag source).1 ∧
      Alike (s.readDirective tag source).2 (t.readDirective tag source).2 := by
  rw [State.readDirective, State.readDirective, h.context]
  exact ⟨rfl, h.scope, rfl, h.refs, h.warnings, h.failure⟩

theorem Alike.start (h : Alike s t) (kind : ElementKind) (template : Template.Instance)
    (styled styled' : Bool) :
    (s.start kind template styled).1 = (t.start kind template styled').1 ∧
      Alike (s.start kind template styled).2 (t.start kind template styled').2 := by
  have hfind : s.scope.find? = t.scope.find? := h.running.find?_eq
  rw [start_eq, start_eq, hfind]
  exact ⟨h.running.size_eq, h.with_scope (Scope.erased_started h.scope ..)⟩

theorem Alike.replace (h : Alike s t) (old : SeriesId) (kind : ElementKind)
    (template : Template.Instance) (styled styled' : Bool) :
    (s.replace old kind template styled).1 = (t.replace old kind template styled').1 ∧
      Alike (s.replace old kind template styled).2 (t.replace old kind template styled').2 := by
  rw [replace_eq, replace_eq]
  exact ⟨h.running.size_eq, h.with_scope (Scope.erased_replaced h.scope ..)⟩

theorem Alike.headingSeries (h : Alike s t) (d : Defaults) (styled : Bool) (level : HeadingLevel)
    (source : Option String) :
    ∃ r s' t', s.headingSeries d level source = (r, s') ∧
      t.headingSeries { d with styled } level source = (r, t') ∧ Alike s' t' := by
  obtain ⟨hresult, hread⟩ := h.readDirective level.tag source
  rw [State.headingSeries, State.headingSeries]
  rcases hs : s.readDirective level.tag source with ⟨r, s'⟩
  rcases ht : t.readDirective level.tag source with ⟨r', t'⟩
  rw [hs, ht] at hresult hread
  subst hresult
  cases r with
  | error e => exact ⟨_, _, _, rfl, rfl, hread⟩
  | ok directive =>
    have hfind : s'.scope.findKind? (.heading level) = t'.scope.findKind? (.heading level) :=
      hread.running.findKind?_eq _
    dsimp only at hread ⊢
    rw [hfind]
    cases t'.scope.findKind? (.heading level) with
    | some current =>
      cases directive with
      | none => exact ⟨_, _, _, rfl, rfl, hread⟩
      | some template =>
        obtain ⟨hid, hreplace⟩ := hread.replace current (.heading level) template false false
        exact ⟨_, _, _, rfl, by rw [hid], hreplace⟩
    | none =>
      have htemplate : s'.headingTemplate d level directive =
          t'.headingTemplate { d with styled } level directive := by
        rw [headingTemplate, headingTemplate]
        cases level.outer? with
        | none => rfl
        | some l =>
          have hchild : s'.childTemplate? (.heading l) = t'.childTemplate? (.heading l) :=
            hread.running.childTemplate?_eq _
          rw [Option.bind_some, Option.bind_some, hchild]
      dsimp only
      rw [htemplate]
      cases t'.headingTemplate { d with styled } level directive with
      | none => exact ⟨_, _, _, rfl, rfl, hread⟩
      | some template =>
        obtain ⟨hid, hstart⟩ := hread.start (.heading level) template false false
        exact ⟨_, _, _, rfl, by rw [hid], hstart⟩

theorem Alike.templateOfList (h : Alike s t) (d : Defaults) (styled : Bool) (kind : ElementKind)
    (tag : String) (source : Option String) :
    ∃ r s' t', s.templateOfList d kind tag source = (r, s') ∧
      t.templateOfList { d with styled } kind tag source = (r, t') ∧ Alike s' t' := by
  obtain ⟨hresult, hread⟩ := h.readDirective tag source
  rw [State.templateOfList, State.templateOfList]
  rcases hs : s.readDirective tag source with ⟨r, s'⟩
  rcases ht : t.readDirective tag source with ⟨r', t'⟩
  rw [hs, ht] at hresult hread
  subst hresult
  cases r with
  | error e => exact ⟨_, _, _, rfl, rfl, hread⟩
  | ok template =>
    cases template with
    | some template => exact ⟨_, _, _, rfl, rfl, hread⟩
    | none =>
      have hfind : s'.scope.findKind? kind = t'.scope.findKind? kind := hread.running.findKind?_eq kind
      have hchild : s'.childTemplate? kind = t'.childTemplate? kind := hread.running.childTemplate?_eq kind
      have hdefault : d.list kind = Defaults.list { d with styled } kind := by cases kind <;> rfl
      dsimp only at hread ⊢
      rw [hfind, hchild, hdefault]
      exact ⟨_, _, _, rfl, rfl, hread⟩

end State

/-! ## Elements -/

namespace Walk
open State
variable {d : Defaults} {s t : State}

theorem alike_enterHeading (h : Alike s t) (d : Defaults) (styled : Bool) (level : HeadingLevel)
    (tag : String) (attrs : Attrs) :
    (enterHeading d level tag attrs s).attrs =
        (enterHeading { d with styled } level tag attrs t).attrs ∧
      (enterHeading d level tag attrs s).label =
        (enterHeading { d with styled } level tag attrs t).label ∧
      Alike (enterHeading d level tag attrs s).state
        (enterHeading { d with styled } level tag attrs t).state := by
  rw [enterHeading, enterHeading]
  generalize takeBoth tag attrs = ds
  have hwarn := (h.closeBelow level).warn ds.warnings
  by_cases hsup : ds.suppressed
  · rw [if_pos hsup, if_pos hsup]
    exact ⟨rfl, rfl, (hwarn.warn _).resolve rfl⟩
  · obtain ⟨r, s', t', hs, ht, hseries⟩ := hwarn.headingSeries d styled level ds.source
    rw [if_neg hsup, if_neg hsup, hs, ht]
    rcases r with e | _ | id
    · exact ⟨rfl, rfl, hseries.stop e⟩
    · exact ⟨rfl, rfl, hseries.resolve rfl⟩
    · have hnext := hseries.increment id
      exact ⟨rfl, congrArg some (hnext.running.text_eq id), hnext.resolve rfl⟩

theorem alike_enterElement (h : Alike s t) (tag : String) (attrs : Attrs) :
    (enterElement tag attrs s).attrs = (enterElement tag attrs t).attrs ∧
      Alike (enterElement tag attrs s).state (enterElement tag attrs t).state :=
  ⟨rfl, (h.warn _).resolve rfl⟩

theorem alike_enterList (h : Alike s t) (d : Defaults) (styled : Bool) (kind : ElementKind) (tag : String)
    (attrs : Attrs) :
    ∃ attrs' l s' t', enterList d kind tag attrs s = (attrs', l, s') ∧
      enterList { d with styled } kind tag attrs t = (attrs', l, t') ∧ Alike s' t' ∧
      ∀ l' ∈ l, l'.classes = [] := by
  rw [enterList, enterList]
  generalize Directive.label.take tag attrs = label
  generalize Directive.noLabel.discard tag label.attrs = left
  dsimp only
  obtain ⟨r, s', t', hs, ht, hread⟩ :=
    (h.warn (label.warnings ++ left.2)).templateOfList d styled kind tag label.value
  rw [hs, ht]
  rcases r with e | _ | template
  · exact ⟨_, _, _, _, rfl, rfl, hread.stop e, by simp⟩
  · exact ⟨_, _, _, _, rfl, rfl, (alike_enterElement hread tag left.1).2, by simp⟩
  · obtain ⟨hid, hstart⟩ := hread.start kind template d.styled styled
    exact ⟨_, _, _, _, rfl, by rw [hid], hstart.resolve rfl, by simp⟩

/-- Two lists with one series, which labels may have given different classes. -/
structure ListState.Alike (l l' : ListState) : Prop where
  series : l.series = l'.series
  left : ∀ name ∈ l.classes, Css.IsLabelClass name
  right : ∀ name ∈ l'.classes, Css.IsLabelClass name

theorem isLabelClass_drawItem (d : Defaults) {l : ListState} (h : ∀ name ∈ l.classes, Css.IsLabelClass name)
    (attrs : Attrs) (s : State) :
    ∀ name ∈ (drawItem d l attrs s).2.classes, Css.IsLabelClass name := fun name hname =>
  (List.mem_append.1 hname).elim (h name) ((Roster.dressed_drawItem ..).2 name)

/-- The label of an item in the two modes: text in one of them, and none in the other. -/
theorem alike_drawItem (h : Alike s t) (d : Defaults) {l l' : ListState} (hl : l.Alike l')
    (hstyled : t.scope.roster.StyledAs true l'.series) (attrs : Attrs) :
    let e := drawItem d l attrs s
    let e' := drawItem { d with styled := true } l' attrs t
    e.1.attrs.unstyled = e'.1.attrs.unstyled ∧ e'.1.label = none ∧ Alike e.1.state e'.1.state ∧
      e.2.Alike e'.2 := by
  have hattrs : (drawItem d l attrs s).1.attrs.unstyled =
      (drawItem { d with styled := true } l' attrs t).1.attrs.unstyled :=
    (Roster.dressed_drawItem ..).1.unstyled_eq.trans (Roster.dressed_drawItem ..).1.unstyled_eq.symm
  refine ⟨hattrs, ?_, ?_, hl.series, isLabelClass_drawItem _ hl.left _ _,
    isLabelClass_drawItem _ hl.right _ _⟩
  · obtain ⟨v, hv, hvs⟩ := (Roster.grows_increment t.scope.roster l'.series).styledAs hstyled
    obtain ⟨u, hu, rfl⟩ := Roster.get?_of_view? hv
    have hus : u.styled = true := hvs
    show ((t.scope.roster.increment l'.series).drawItem true l'.series l'.container attrs).1.label = none
    rw [Roster.drawItem, hu]
    simp only [hus, Bool.and_self, if_true, Roster.drawStyled]
    split
    · rfl
    · split <;> rfl
  · have hid : (drawItem d l attrs s).1.attrs.get? "id" =
        (drawItem { d with styled := true } l' attrs t).1.attrs.get? "id" := by
      rw [← Attrs.get?_unstyled _ (by decide) (by decide), hattrs,
        Attrs.get?_unstyled _ (by decide) (by decide)]
    have hnext : Alike (s.increment l.series) (t.increment l'.series) := by
      rw [hl.series]
      exact h.increment _
    exact (hnext.addRules _ _).resolve hid

theorem alike_enterItem (h : Alike s t) (d : Defaults) {l l' : ListState} (hl : l.Alike l')
    (hstyled : t.scope.roster.StyledAs true l'.series) (kind : ElementKind) (tag : String) (attrs : Attrs) :
    let e := enterItem d kind l tag attrs s
    let e' := enterItem { d with styled := true } kind l' tag attrs t
    e.1.attrs.unstyled = e'.1.attrs.unstyled ∧ e'.1.label = none ∧ Alike e.1.state e'.1.state ∧
      e.2.Alike e'.2 := by
  dsimp only
  have hwarn := h.warn (takeBoth tag attrs).warnings
  cases hsup : (takeBoth tag attrs).suppressed with
  | true =>
    rw [enterItem_unlabelled hsup, enterItem_unlabelled hsup]
    exact ⟨rfl, rfl, (hwarn.warn _).resolve rfl, hl⟩
  | false =>
    obtain ⟨hresult, hread⟩ := hwarn.readDirective tag (takeBoth tag attrs).source
    rcases hs : (s.warn (takeBoth tag attrs).warnings).readDirective tag (takeBoth tag attrs).source
      with ⟨r, s'⟩
    rcases ht : (t.warn (takeBoth tag attrs).warnings).readDirective tag (takeBoth tag attrs).source
      with ⟨r', t'⟩
    rw [hs, ht] at hresult hread
    subst hresult
    rcases r with e | _ | template
    · rw [enterItem_failed hsup hs, enterItem_failed hsup ht]
      exact ⟨rfl, rfl, hread.stop e, hl⟩
    · rw [enterItem_drawn hsup hs, enterItem_drawn hsup ht]
      have hscope : t'.scope = t.scope := scope_of_readDirective (s := t.warn _) ht
      exact alike_drawItem hread d hl (hscope ▸ hstyled) _
    · rw [enterItem_replaced hsup hs, enterItem_replaced hsup ht, hl.series]
      obtain ⟨hid, hreplace⟩ := hread.replace l'.series kind template d.styled true
      have hl' : ListState.Alike { l with series := (s'.replace l'.series kind template d.styled).1 }
          { l' with series := (t'.replace l'.series kind template true).1 } :=
        ⟨hid, hl.left, hl.right⟩
      exact alike_drawItem hreplace d hl' (styledAs_replace t' l'.series kind template true) _

theorem alike_leaveItem (h : Alike s t) {l l' : ListState} (hl : l.Alike l') :
    Alike (leaveItem l s) (leaveItem l' t) := by
  rw [leaveItem, leaveItem, h.isStopped_eq, hl.series]
  split
  · exact h
  · exact h.endBelow l'.series

theorem alike_leaveList (h : Alike s t) {l l' : ListState} (hl : l.Alike l') :
    Alike (leaveList l s) (leaveList l' t) := by
  rw [leaveList, leaveList, h.isStopped_eq, hl.series]
  split
  · exact h
  · exact h.with_scope (by rw [Scope.erased_remove, Scope.erased_remove, h.scope])

end Walk

/-! ## The walk -/

namespace Draft
open State Walk
variable (d : Defaults)

/-- Two drafts that differ in the labels of items, which only the first may have, and in styling. -/
def Concurs (n m : Draft) : Prop := n.withoutItemLabels.unstyled = m.unstyled

def ConcursAll (ns ms : List Draft) : Prop := unstyledAll (withoutItemLabelsAll ns) = unstyledAll ms

theorem Unlabelled.concurs {n : Draft} (h : n.Unlabelled) : n.Concurs n :=
  congrArg unstyled (withoutItemLabels_of_unlabelled h)

theorem UnlabelledAll.concurs {ns : List Draft} (h : UnlabelledAll ns) : ConcursAll ns ns :=
  congrArg unstyledAll (withoutItemLabelsAll_of_unlabelled h)

theorem Concurs.cons {n m : Draft} {ns ms : List Draft} (h : n.Concurs m) (hrest : ConcursAll ns ms) :
    ConcursAll (n :: ns) (m :: ms) := by
  rw [ConcursAll, withoutItemLabelsAll, unstyledAll, unstyledAll, h, hrest]

theorem Concurs.item {attrs attrs' : Attrs} {label : Option String} {ns ms : List Draft}
    (hattrs : attrs.unstyled = attrs'.unstyled) (h : ConcursAll ns ms) :
    (element "li" attrs label ns).Concurs (element "li" attrs' none ms) := by
  rw [Concurs, withoutItemLabels, unstyled, unstyled, if_pos rfl, hattrs, h]

theorem Concurs.element {tag : String} {attrs attrs' : Attrs} {label : Option String} {ns ms : List Draft}
    (hlabel : tag = "li" → label = none) (hattrs : attrs.unstyled = attrs'.unstyled) (h : ConcursAll ns ms) :
    (element tag attrs label ns).Concurs (element tag attrs' label ms) := by
  rw [Concurs, withoutItemLabels, unstyled, unstyled, hattrs, h]
  split
  · rw [hlabel ‹_›]
  · rfl

/-- Each part of a walk in the two modes. -/
theorem alike_cases : WalkCases d
    (fun n s => n.Unlabelled → ∀ t, State.Alike s t →
      (walk d n s).1.Concurs (walk { d with styled := true } n t).1 ∧
        State.Alike (walk d n s).2 (walk { d with styled := true } n t).2)
    (fun ns s => UnlabelledAll ns → ∀ t, State.Alike s t →
      ConcursAll (walkAll d ns s).1 (walkAll { d with styled := true } ns t).1 ∧
        State.Alike (walkAll d ns s).2 (walkAll { d with styled := true } ns t).2)
    fun kind ns l s => UnlabelledAll ns → ∀ l' t, State.Alike s t → l.Alike l' →
      t.scope.roster.StyledAs true l'.series →
      ConcursAll (walkItems d kind ns l s).1 (walkItems { d with styled := true } kind ns l' t).1 ∧
        State.Alike (walkItems d kind ns l s).2.2 (walkItems { d with styled := true } kind ns l' t).2.2 ∧
        (walkItems d kind ns l s).2.1.Alike (walkItems { d with styled := true } kind ns l' t).2.1 where
  stopped n s hs hn t h := by
    rw [walk_stopped hs, walk_stopped (h.isStopped_eq ▸ hs)]
    exact ⟨hn.concurs, h⟩
  leaf n s _ hleaf hn t h := by
    rw [walk_leaf hleaf, walk_leaf hleaf]
    exact ⟨hn.concurs, h⟩
  heading level tag attrs label children s hs hk hn t h := by
    obtain ⟨rfl, hchildren⟩ := hn
    rw [walk_heading hs hk, walk_heading (h.isStopped_eq ▸ hs) hk]
    obtain ⟨hattrs, hlabel, hstate⟩ := alike_enterHeading h d true level tag attrs
    rw [← hlabel]
    exact ⟨Concurs.element (fun hli => absurd hli (ne_li hk)) (congrArg _ hattrs) hchildren.concurs, hstate⟩
  other tag attrs label children s hs hk hchildren hn t h := by
    obtain ⟨rfl, hn⟩ := hn
    rw [walk_other hs hk, walk_other (h.isStopped_eq ▸ hs) hk]
    obtain ⟨hall, hstate⟩ := hchildren hn _ (alike_enterElement h tag attrs).2
    exact ⟨Concurs.element (fun _ => rfl) rfl hall, hstate⟩
  bareList kind tag attrs attrs' label children s s' hs hk hlist he hchildren hn t h := by
    obtain ⟨rfl, hn⟩ := hn
    obtain ⟨_, _, _, t', hes, het, hstart, -⟩ := alike_enterList h d true kind tag attrs
    cases he.symm.trans hes
    rw [walk_bareList hs hk hlist he, walk_bareList (h.isStopped_eq ▸ hs) hk hlist het]
    obtain ⟨hall, hstate⟩ := hchildren hn t' hstart
    exact ⟨Concurs.element (fun _ => rfl) rfl hall, hstate⟩
  list kind tag attrs attrs' label children l s s' hs hk hlist he hchildren hn t h := by
    obtain ⟨rfl, hn⟩ := hn
    obtain ⟨_, _, _, t', hes, het, hstart, hclasses⟩ := alike_enterList h d true kind tag attrs
    cases he.symm.trans hes
    rw [walk_list hs hk hlist he, walk_list (h.isStopped_eq ▸ hs) hk hlist het]
    have hl : l.Alike l := by
      refine ⟨rfl, ?_, ?_⟩ <;> simp [hclasses l rfl]
    obtain ⟨hall, hstate, hl'⟩ := hchildren hn l t' hstart hl (styledAs_enterList het)
    refine ⟨Concurs.element (fun _ => rfl) ?_ hall, alike_leaveList hstate hl'⟩
    exact (Attrs.Dressed.refl.foldl_addClass hl'.left).unstyled_eq.trans
      (Attrs.Dressed.refl.foldl_addClass hl'.right).unstyled_eq.symm
  nil s _ t h := by
    rw [walkAll_nil, walkAll_nil]
    exact ⟨rfl, h⟩
  cons n rest s hfirst hrest hns t h := by
    rw [walkAll_cons, walkAll_cons]
    obtain ⟨hfirst, hstate⟩ := hfirst hns.1 t h
    obtain ⟨hrest, hstate⟩ := hrest hns.2 _ hstate
    exact ⟨hfirst.cons hrest, hstate⟩
  itemsStopped kind ns l s hs hns l' t h hl _ := by
    rw [walkItems_stopped hs, walkItems_stopped (h.isStopped_eq ▸ hs)]
    exact ⟨hns.concurs, h, hl⟩
  itemsNil kind l s _ _ l' t h hl _ := by
    rw [walkItems_nil, walkItems_nil]
    exact ⟨rfl, h, hl⟩
  itemsLeaf kind n rest l s _ hn hrest hns l' t h hl hstyled := by
    rw [walkItems_leaf hn, walkItems_leaf hn]
    obtain ⟨hrest, hstate⟩ := hrest hns.2 l' t h hl hstyled
    exact ⟨hns.1.concurs.cons hrest, hstate⟩
  item kind attrs label content rest l s hs hcontent hrest hns l' t h hl hstyled := by
    obtain ⟨⟨-, hinner⟩, hns⟩ := hns
    rw [walkItems_item hs, walkItems_item (h.isStopped_eq ▸ hs)]
    obtain ⟨hattrs, hlabel, henter, hl'⟩ := alike_enterItem h d hl hstyled kind "li" attrs
    have hstyled' := (passes_itemDraw (d := { d with styled := true }) kind "li" attrs hstyled).2
    obtain ⟨hinside, hstate⟩ := hcontent hinner _ henter
    have hleave := alike_leaveItem hstate hl'
    have hsteps := (walkAll_steps { d with styled := true } content _).trans
      (leaveItem_steps { d with styled := true } (enterItem { d with styled := true } kind l' "li" attrs t).2
        (walkAll { d with styled := true } content
          (enterItem { d with styled := true } kind l' "li" attrs t).1.state).2)
    obtain ⟨hrest, hend⟩ := hrest hns _ _ hleave hl' (hsteps.grows.styledAs hstyled')
    dsimp only
    rw [hlabel]
    exact ⟨(Concurs.item hattrs hinside).cons hrest, hend⟩
  itemsOther kind tag attrs label content rest l s hs hli hn hrest hns l' t h hl hstyled := by
    rw [walkItems_other hs hli, walkItems_other (h.isStopped_eq ▸ hs) hli]
    obtain ⟨hfirst, hstate⟩ := hn hns.1 t h
    have hgrows := (walk_steps { d with styled := true } (element tag attrs label content) t).grows
    obtain ⟨hrest, hend⟩ := hrest hns.2 l' _ hstate hl (hgrows.styledAs hstyled)
    exact ⟨hfirst.cons hrest, hend⟩

/-- Walks over a node in the two modes. -/
theorem walk_alike (n : Draft) (hn : n.Unlabelled) {s t : State} (h : State.Alike s t) :
    (walk d n s).1.Concurs (walk { d with styled := true } n t).1 ∧
      State.Alike (walk d n s).2 (walk { d with styled := true } n t).2 := (alike_cases d).walk n s hn t h

end Draft

/-! ## Runs -/

namespace Labelling
open State Draft

/-- The drafts of two runs that differ in the mode, and their last states. -/
theorem draft_alike (settings : Settings) (typeset : Typesetting) (c : Template.Context) (doc : Node) :
    let text := draft ⟨{ settings with mode := .text }, typeset⟩ c (.ofNode doc)
    let css := draft ⟨{ settings with mode := .css }, typeset⟩ c (.ofNode doc)
    text.draft.Concurs css.draft ∧ State.Alike text.state css.state := by
  have hdoc := unlabelled_ofNode doc
  simp only [draft, Defaults.ofSettings_with_mode]
  rcases Defaults.ofSettings c settings with ⟨e | d, c'⟩
  · exact ⟨hdoc.concurs, rfl, rfl, rfl, rfl, rfl⟩
  · exact walk_alike { d with styled := false } _ (hdoc.markRefs none) ⟨rfl, rfl, rfl, rfl, rfl⟩

/-- Whatever the mode is, a document has the same labels outside of items, the same references and the
same warnings, or it fails for the same reason. -/
theorem modes_agree (settings : Settings) (typeset : Typesetting) (c : Template.Context) (doc : Node) :
    let text : Labelling := ⟨{ settings with mode := .text }, typeset⟩
    let css : Labelling := ⟨{ settings with mode := .css }, typeset⟩
    let textRun := text.draft c (.ofNode doc)
    let cssRun := css.draft c (.ofNode doc)
    (text.apply c doc).result.map LabelReport.warnings = (css.apply c doc).result.map LabelReport.warnings ∧
    textRun.state.refs = cssRun.state.refs ∧
    textRun.draft.withoutItemLabels.unstyled = cssRun.draft.unstyled ∧
    (textRun.draft.withoutItemLabels.toNode typeset textRun.state.refs).unstyled =
      (css.apply c doc).document.unstyled := by
  obtain ⟨hdraft, hstate⟩ := draft_alike settings typeset c doc
  dsimp only
  refine ⟨?_, hstate.refs, hdraft, ?_⟩
  · show (State.result _).map _ = (State.result _).map _
    rw [State.result, State.result, hstate.failure]
    cases (draft ⟨{ settings with mode := .css }, typeset⟩ c (.ofNode doc)).state.failure with
    | some e => rfl
    | none => exact congrArg Except.ok hstate.warnings
  · rw [hstate.refs]
    exact unstyled_toNode hdraft

end Labelling
end Rubric
