import Rubric.Proofs.Labelling.OpenSections

/-!
# Lists in lists

* `Node.listSites` : the lists of a document that are not in a heading, each with the kinds of the lists
  around it; `sites_cases` : a walk to its end comes to all of them;
* `Defaults.listBelow?` : the template of lists of a kind so many levels down;
* `Scope.Inside d s around` : the series in scope are those of the lists around, and the sections. Each list
  has the template of its depth;
* `Inside.listTemplate?`, `Placed.find?_eq` : then so has one more list, and its marker selects among them;
* `State.Stands`, `State.InList` : a walk is inside of some lists; every step without directives keeps it there;
* `placed_cases` : so it is at all lists of a walk, if no list has a heading in it;
* `Labelling.lists_by_depth` : the templates and the parents of all lists of a document.
-/

namespace Rubric

/-! ## The lists of a document -/

/-- A list of a document. -/
structure ListSite where
  /-- The kinds of the lists around it, innermost first. -/
  around : List ElementKind
  kind : ElementKind
  attrs : Attrs
deriving DecidableEq

/-- The number of lists of its kind around a list. -/
def ListSite.depth (s : ListSite) : Nat := s.around.count s.kind

def ListVisit.site (v : ListVisit) : ListSite := ⟨v.around.map Prod.fst, v.kind, v.attrs⟩

namespace Draft
open Walk State

mutual
/-- The lists of a draft that are not in a heading, in document order, where some lists are around it. -/
def listSites (around : List ElementKind) : Draft → List ListSite
  | element tag attrs _ children =>
    match ElementKind.ofTag? tag with
    | some (.heading _) => []
    | some kind => ⟨around, kind, attrs⟩ :: listSitesAll (kind :: around) children
    | none => listSitesAll around children
  | text _ | split _ _ => []

def listSitesAll (around : List ElementKind) : List Draft → List ListSite
  | [] => []
  | n :: rest => listSites around n ++ listSitesAll around rest
end

section Sites
variable {around : List ElementKind} {kind : ElementKind} {tag : String} {attrs : Attrs}
  {label : Option String} {children : List Draft}

theorem listSites_leaf {n : Draft} (hn : n.Leaf) : n.listSites around = [] := by
  cases n with
  | text => rfl
  | split => rfl
  | element => exact (hn _ _ _ _ rfl).elim

theorem listSites_heading {level : HeadingLevel} (hk : ElementKind.ofTag? tag = some (.heading level)) :
    (element tag attrs label children).listSites around = [] := by
  rw [listSites, hk]

theorem listSites_other (hk : ElementKind.ofTag? tag = none) :
    (element tag attrs label children).listSites around = listSitesAll around children := by
  rw [listSites, hk]

theorem listSites_list (hk : ElementKind.ofTag? tag = some kind) (hlist : kind.isList) :
    (element tag attrs label children).listSites around =
      ⟨around, kind, attrs⟩ :: listSitesAll (kind :: around) children := by
  rw [listSites, hk]
  cases kind with
  | heading => cases hlist
  | orderedList => rfl
  | unorderedList => rfl

end Sites

mutual
theorem listSites_markRefs (around : List ElementKind) (target : Option String) (n : Draft) :
    (n.markRefs target).listSites around = n.listSites around := by
  cases n with
  | text content =>
    cases target with
    | none => rfl
    | some target =>
      rw [markRefs, Option.elim_some, markText]
      split <;> rfl
  | split target pieces => rfl
  | element tag attrs label children =>
    rw [markRefs]
    cases hk : ElementKind.ofTag? tag with
    | none =>
      rw [listSites_other hk, listSites_other hk]
      exact listSitesAll_markRefsAll around _ children
    | some kind =>
      by_cases hlist : kind.isList
      · rw [listSites_list hk hlist, listSites_list hk hlist]
        exact congrArg _ (listSitesAll_markRefsAll (kind :: around) _ children)
      · obtain ⟨level, rfl⟩ := ElementKind.exists_heading hlist
        rw [listSites_heading hk, listSites_heading hk]

theorem listSitesAll_markRefsAll (around : List ElementKind) (target : Option String) (ns : List Draft) :
    listSitesAll around (markRefsAll target ns) = listSitesAll around ns := by
  cases ns with
  | nil => rfl
  | cons n rest =>
    rw [markRefsAll, listSitesAll, listSitesAll, listSites_markRefs around target n,
      listSitesAll_markRefsAll around target rest]
end

/-- A walk to its end comes to all lists of a draft. -/
theorem sites_cases (d : Defaults) :
    WalkCases d
      (fun n s => (walk d n s).2.failure = none → ∀ around past,
        (visits d around past n s).map ListVisit.site = n.listSites (around.map Prod.fst))
      (fun ns s => (walkAll d ns s).2.failure = none → ∀ around past,
        (visitsAll d around past ns s).map ListVisit.site = listSitesAll (around.map Prod.fst) ns)
      (fun kind ns l s => (walkItems d kind ns l s).2.2.failure = none → ∀ around past,
        (visitsItems d kind around past ns l s).map ListVisit.site =
          listSitesAll (kind :: around.map Prod.fst) ns) where
  stopped n s h hend := absurd (running_of_walk d hend) fun hrun => not_isStopped_iff.2 hrun h
  leaf n s h hn _ around past := by
    rw [visits_leaf hn, listSites_leaf hn]
    rfl
  heading level tag attrs label children s h hk _ around past := by
    rw [visits_heading h hk, listSites_heading hk]
    rfl
  other tag attrs label children s h hk hchildren hend around past := by
    rw [walk_other h hk] at hend
    rw [visits_other h hk, listSites_other hk]
    exact hchildren hend _ _
  bareList kind tag attrs attrs' label children s s' h hk hlist he hchildren hend around past := by
    rw [walk_bareList h hk hlist he] at hend
    rw [visits_bareList h hk hlist he, List.map_cons, hchildren hend, listSites_list hk hlist]
    rfl
  list kind tag attrs attrs' label children l s s' h hk hlist he hchildren hend around past := by
    rw [walk_list h hk hlist he, failure_leaveList] at hend
    rw [visits_list h hk hlist he, List.map_cons, hchildren hend, listSites_list hk hlist]
    rfl
  nil s _ around past := by
    rw [visitsAll]
    rfl
  cons n rest s hn hrest hend around past := by
    rw [walkAll_cons] at hend
    rw [visitsAll, List.map_append, hn (running_of_walkAll d hend), hrest hend, listSitesAll]
  itemsStopped kind ns l s h hend := absurd (running_of_walkItems d hend) fun hrun => not_isStopped_iff.2 hrun h
  itemsNil kind l s h _ around past := by
    rw [visitsItems]
    rfl
  itemsLeaf kind n rest l s h hn hrest hend around past := by
    rw [walkItems_leaf hn] at hend
    rw [visitsItems_leaf hn, hrest hend, listSitesAll, listSites_leaf hn]
    rfl
  item kind attrs label content rest l s h hcontent hrest hend around past := by
    have hli : ElementKind.ofTag? "li" = none := by decide
    rw [walkItems_item h] at hend
    have hafter := (failure_leaveItem _ _).symm.trans (running_of_walkItems d hend)
    rw [visitsItems_item h, List.map_append, hcontent hafter, hrest hend, listSitesAll, listSites_other hli]
    rfl
  itemsOther kind tag attrs label content rest l s h hli hn hrest hend around past := by
    rw [walkItems_other h hli] at hend
    rw [visitsItems_other h hli, List.map_append, hn (running_of_walkItems d hend), hrest hend, listSitesAll]
    rfl

end Draft

/-- The lists of a document that are not in a heading, in document order. -/
def Node.listSites (n : Node) : List ListSite := (Draft.ofNode n).listSites []

/-! ## Templates by depth -/

namespace Defaults
variable {d : Defaults} {kind : ElementKind}

/-- The template of lists of a kind so many levels below the outermost. -/
def listBelow? (d : Defaults) (kind : ElementKind) : Nat → Option Template.Instance
  | 0 => d.list kind
  | n + 1 => (d.listBelow? kind n).bind Template.Instance.child?

theorem template_listBelow? (d : Defaults) (kind : ElementKind) (n : Nat) :
    (d.listBelow? kind n).map Template.Instance.template =
      (d.list kind).bind fun i => i.template.below? n := by
  induction n with
  | zero =>
    rw [listBelow?]
    cases d.list kind <;> rfl
  | succ n ih =>
    have hchild : ∀ i : Template.Instance, i.child?.map Template.Instance.template = i.template.child? := by
      intro i
      rw [Template.Instance.child?, Option.map_map]
      exact Option.map_id'
    calc ((d.listBelow? kind n).bind Template.Instance.child?).map Template.Instance.template
        = ((d.listBelow? kind n).map Template.Instance.template).bind Template.child? := by
          rw [Option.map_bind, Option.bind_map]
          exact congrArg _ (funext hchild)
      _ = (d.list kind).bind fun i => i.template.below? (n + 1) := by
          rw [ih, Option.bind_assoc]
          exact congrArg _ (funext fun i => (Template.below?_succ i.template n).symm)

theorem segment_listBelow? (d : Defaults) (kind : ElementKind) (n : Nat) :
    (d.listBelow? kind n).map (fun i => i.template.segment) =
      (d.list kind).bind fun i => i.template.segmentAt? n := by
  have h := congrArg (Option.map Template.segment) (d.template_listBelow? kind n)
  rw [Option.map_map, Option.map_bind] at h
  exact h.trans (congrArg _ (funext fun i => Template.map_segment_below? i.template n))

end Defaults

/-! ## The scope inside of lists -/

/-- Some lists around each other, innermost first, have series with the templates of their depths, as far as
there are any. -/
inductive Roster.Covers (d : Defaults) (r : Roster) : List (ElementKind × Option SeriesId) → Prop where
  | nil : Covers d r []
  | bare {kind : ElementKind} {outer : List (ElementKind × Option SeriesId)} (houter : Covers d r outer)
      (ht : d.listBelow? kind ((outer.map Prod.fst).count kind) = none) : Covers d r ((kind, none) :: outer)
  | list {kind : ElementKind} {id : SeriesId} {v : Series} {outer : List (ElementKind × Option SeriesId)}
      (houter : Covers d r outer) (hlist : kind.isList) (hv : r.view? id = some v) (hkind : v.kind = kind)
      (ht : d.listBelow? kind ((outer.map Prod.fst).count kind) = some v.template) :
      Covers d r ((kind, some id) :: outer)

/-- The template for a list of a kind where some series are in scope, innermost first. -/
def Roster.templateIn (r : Roster) (d : Defaults) (kind : ElementKind) (ids : List SeriesId) :
    Option Template.Instance :=
  (ids.find? fun id => (r.get? id).any (·.kind == kind)).elim (d.list kind) fun id =>
    (r.get? id).bind fun v => v.template.child?

theorem State.listTemplate?_eq (s : State) (d : Defaults) (kind : ElementKind) :
    s.listTemplate? d kind = s.scope.roster.templateIn d kind s.scope.stack := by
  rw [listTemplate?, childTemplate?, Roster.templateIn, Scope.findKind?]
  cases s.scope.stack.find? fun id => (s.scope.roster.get? id).any (·.kind == kind) <;> rfl

namespace Roster.Covers
variable {d : Defaults} {r r' : Roster} {around : List (ElementKind × Option SeriesId)}

theorem grows (h : Covers d r around) (hr : r.Grows r') : Covers d r' around := by
  induction h with
  | nil => exact .nil
  | bare _ ht ih => exact .bare ih ht
  | list _ hlist hv hkind ht ih =>
    obtain ⟨n, hn⟩ := hr.view _ _ hv
    exact .list ih hlist hn hkind ht

theorem lists (h : Covers d r around) : ∀ id ∈ around.filterMap Prod.snd, r.Lists id := by
  induction h with
  | nil => simp
  | bare _ _ ih => exact ih
  | @list kind id v outer _ hlist hv hkind _ ih =>
    exact List.forall_mem_cons.2 ⟨⟨v, hv, hkind ▸ ElementKind.level?_of_isList hlist⟩, ih⟩

/-- One more list has the template of its depth, if the other series in scope are not of lists. -/
theorem templateIn_eq (h : Covers d r around) {kind : ElementKind} {ids : List SeriesId}
    (hids : ∀ id ∈ ids, ¬(r.get? id).any (·.kind == kind)) :
    r.templateIn d kind (around.filterMap Prod.snd ++ ids) =
      d.listBelow? kind ((around.map Prod.fst).count kind) := by
  induction h with
  | nil =>
    have hnone : ids.find? (fun id => (r.get? id).any (·.kind == kind)) = none :=
      List.find?_eq_none.2 hids
    rw [templateIn, List.filterMap_nil, List.nil_append, hnone]
    rfl
  | @bare kind' outer _ ht ih =>
    rw [List.map_cons, List.count_cons]
    by_cases heq : kind' = kind
    · subst heq
      rw [if_pos (by simp), Defaults.listBelow?, ht]
      exact ih.trans ht
    · rw [if_neg (by simpa using heq)]
      exact ih
  | @list kind' id v outer _ _ hv hkind ht ih =>
    obtain ⟨t, hget, rfl⟩ := Roster.get?_of_view? hv
    rw [List.map_cons, List.count_cons, List.filterMap_cons, templateIn]
    dsimp only
    rw [List.cons_append, List.find?_cons, hget]
    by_cases heq : kind' = kind
    · subst heq
      have hfound : ((some t).any fun v => v.kind == kind') = true := by simpa [Series.unlinked] using hkind
      rw [hfound, if_pos (by simp), Defaults.listBelow?, ht]
      dsimp only
      rw [Option.elim_some, hget]
      rfl
    · have hnot : ((some t).any fun v => v.kind == kind) = false := by
        have hne : t.kind ≠ kind := fun h => heq (hkind.symm.trans h)
        simpa using hne
      rw [hnot, if_neg (by simpa using heq)]
      exact ih

end Roster.Covers

namespace Scope
variable {d : Defaults} {s s' : Scope} {around : List (ElementKind × Option SeriesId)}

/-- The series in scope are those of the lists around, and the sections outside of them. -/
structure Inside (d : Defaults) (s : Scope) (around : List (ElementKind × Option SeriesId)) : Prop where
  stack : s.stack = around.filterMap Prod.snd ++ s.sections.map Prod.fst
  covers : s.roster.Covers d around

theorem Inside.outside (h : s.lists = []) : s.Inside d [] := ⟨(map_fst_sections h).symm, .nil⟩

theorem level?_of_mem_map_sections {id : SeriesId} (h : id ∈ s.sections.map Prod.fst) : s.level? id ≠ none := by
  obtain ⟨⟨id, l⟩, hid, rfl⟩ := List.mem_map.1 h
  rw [(mem_sections.1 hid).2]
  exact Option.some_ne_none l

theorem Inside.lists_eq (h : s.Inside d around) : s.lists = around.filterMap Prod.snd := by
  have hlists : (around.filterMap Prod.snd).filter (fun id => (s.level? id).isNone) =
      around.filterMap Prod.snd :=
    List.filter_eq_self.2 fun id hid => by rw [(h.covers.lists id hid).level?]; rfl
  have hsections : (s.sections.map Prod.fst).filter (fun id => (s.level? id).isNone) = [] :=
    List.filter_eq_nil_iff.2 fun id hid => mt Option.isNone_iff_eq_none.1 (level?_of_mem_map_sections hid)
  rw [lists, h.stack, List.filter_append, hlists, hsections, List.append_nil]

/-- What leaves the stack as it is and only adds series leaves the scope inside of the same lists. -/
theorem Inside.grows (h : s.Inside d around) (hs : s.Sound) (hstack : s'.stack = s.stack)
    (hr : s.roster.Grows s'.roster) : s'.Inside d around := by
  have hsections : s'.sections = s.sections := by
    rw [sections, hstack, sections]
    refine List.filterMap_congr fun id hid => ?_
    obtain ⟨v, hv⟩ := Roster.exists_view? (hs.has id hid)
    obtain ⟨n, hn⟩ := hr.view id v hv
    rw [level?, hn, level?, hv]
    rfl
  exact ⟨by rw [hstack, hsections, h.stack], h.covers.grows hr⟩

theorem level?_of_kind {kind : ElementKind} (hlist : kind.isList) {id : SeriesId}
    (h : (s.roster.get? id).any (·.kind == kind)) : s.level? id = none := by
  rw [level?, Roster.view?]
  cases hget : s.roster.get? id with
  | none => rfl
  | some t =>
    rw [hget] at h
    have hkind : t.kind = kind := by simpa using h
    show t.kind.level? = none
    rw [hkind]
    exact ElementKind.level?_of_isList hlist

/-- A list has the template of its depth. -/
theorem Inside.listTemplate? {st : State} (h : st.scope.Inside d around) {kind : ElementKind}
    (hlist : kind.isList) : st.listTemplate? d kind = d.listBelow? kind ((around.map Prod.fst).count kind) := by
  rw [State.listTemplate?_eq, h.stack]
  refine h.covers.templateIn_eq fun id hid hkind => ?_
  exact level?_of_mem_map_sections hid (level?_of_kind hlist hkind)

theorem Inside.started (h : s.Inside d around) (hs : s.Sound) {kind : ElementKind} (hlist : kind.isList)
    {template : Template.Instance} (ht : d.listBelow? kind ((around.map Prod.fst).count kind) = some template)
    (parent : Option SeriesId) (styled : Bool) :
    (s.started kind template parent styled).Inside d ((kind, some s.roster.series.size) :: around) := by
  refine ⟨?_, ?_⟩
  · rw [stack_started, hs.sections_start, ElementKind.level?_of_isList hlist, h.stack]
    rfl
  · have hview : (s.started kind template parent styled).roster.view? s.roster.series.size =
        some (s.roster.newSeries kind template parent styled) := by
      rw [view?_started, if_pos rfl]
    exact .list (h.covers.grows (Roster.grows_create ..)) hlist hview rfl ht

end Scope

/-! ## Parents -/

namespace ListVisit

/-- The series of the lists around, innermost first. -/
def enclosing (v : ListVisit) : List SeriesId := v.around.filterMap Prod.snd

def numbers (v : ListVisit) (id : SeriesId) : Bool := decide (v.before.scope.roster.Numbers id)

/-- The series that a marker asks for: of the lists around, the innermost that is numbered; of these and, behind
them, the open sections, the first that is; the deepest open section; or that of a level. -/
def chosen (v : ListVisit) : Selector → Option SeriesId
  | .list => v.enclosing.find? v.numbers
  | .any => (v.enclosing.find? v.numbers).or ((v.sections.map Prod.fst).find? v.numbers)
  | .heading => v.sections.head?.map Prod.fst
  | .level l => (v.sections.find? fun e => e.2 == l).map Prod.fst

/-- The list has no directive, and the series in scope are those of the lists around and the sections. -/
structure Placed (v : ListVisit) : Prop where
  attrs : v.attrs.Undirected
  inside : v.before.scope.Inside v.defaults v.around

variable {v : ListVisit}

theorem Placed.find?_eq (h : v.Placed) (hsections : v.before.scope.sections = v.sections)
    (selector : Selector) : v.before.scope.find? selector = v.chosen selector := by
  have hany : v.before.scope.selects .any = v.numbers := by
    funext id
    rw [Bool.eq_iff_iff, Scope.selects_any, numbers, decide_eq_true_iff]
  cases selector with
  | any =>
    rw [Scope.find?, hany, h.inside.stack, List.find?_append, hsections, chosen, enclosing]
  | list => rw [Scope.find?_list, h.inside.lists_eq, hany, chosen, enclosing]
  | heading => rw [Scope.find?_heading, hsections, chosen]
  | level l => rw [Scope.find?_level, Scope.sectionOf?, hsections, chosen]

/-- The series with which a list begins: it shows the segment of its depth, below the series that the marker
of the segment asks for. -/
theorem Placed.series? (h : v.Placed) (hlist : v.kind.isList)
    (hsections : v.before.scope.sections = v.sections) :
    v.series?.map Series.segment =
        (v.defaults.list v.kind).bind (fun i => i.template.segmentAt? v.site.depth) ∧
      ∀ own, v.series? = some own → own.parent = own.segment.parent.bind v.chosen := by
  have htemplate : v.before.listTemplate? v.defaults v.kind =
      v.defaults.listBelow? v.kind v.site.depth := h.inside.listTemplate? hlist
  have hentered := Walk.enterList_of_undirected h.attrs v.defaults v.kind v.tag v.before
  rw [← Defaults.segment_listBelow?, ← htemplate, ListVisit.series?, entered, hentered]
  cases v.before.listTemplate? v.defaults v.kind with
  | none => exact ⟨rfl, fun own hown => by cases hown⟩
  | some template =>
    dsimp only
    rw [Option.bind_some, State.scope_resolve, Scope.view?_started, if_pos rfl]
    refine ⟨rfl, fun own hown => ?_⟩
    cases hown
    show template.template.segment.parent.bind v.before.scope.find? = _
    exact congrArg _ (funext (h.find?_eq hsections))

end ListVisit

/-! ## The walk -/

namespace State
open Walk Draft Scope
variable {d : Defaults} {s s' : State} {around : List (ElementKind × Option SeriesId)} {kind : ElementKind}

/-- A walk is inside of some lists. -/
structure Stands (d : Defaults) (s : State) (around : List (ElementKind × Option SeriesId)) : Prop where
  sound : s.scope.Sound
  running : s.failure = none
  inside : s.scope.Inside d around

/-- A walk is among the children of a list, whose series is innermost. -/
structure InList (d : Defaults) (s : State) (kind : ElementKind) (id : SeriesId)
    (around : List (ElementKind × Option SeriesId)) : Prop extends Stands d s ((kind, some id) :: around) where
  inner : ∃ base, s.scope.Inner base id

/-- Steps that leave the stack as it is leave the walk inside of the same lists. -/
theorem Stands.steps (h : s.Stands d around) (hsteps : Steps d s s') (hrun : s'.failure = none)
    (hstack : s'.scope.stack = s.scope.stack) : s'.Stands d around :=
  ⟨hsteps.sound h.sound, hrun, h.inside.grows h.sound hstack hsteps.grows⟩

theorem InList.steps {id : SeriesId} (h : s.InList d kind id around) (hsteps : Steps d s s')
    (hrun : s'.failure = none) (hstack : s'.scope.stack = s.scope.stack) : s'.InList d kind id around := by
  obtain ⟨base, hinner⟩ := h.inner
  exact ⟨h.toStands.steps hsteps hrun hstack, base, hstack.trans hinner.stack, hinner.older⟩

theorem Stands.enterElement (h : s.Stands d around) {attrs : Attrs} (ha : attrs.Undirected) (tag : String) :
    (enterElement tag attrs s).state.Stands d around := by
  apply h.steps (enterElement_steps d tag attrs s)
  · rw [enterElement_of_undirected ha, failure_resolve]
    exact h.running
  · rw [scope_enterElement]

/-- A list without a series has no template at its depth. -/
theorem Stands.bareList (h : s.Stands d around) (hlist : kind.isList) {tag : String} {attrs attrs' : Attrs}
    (ha : attrs.Undirected) (he : enterList d kind tag attrs s = (attrs', none, s')) :
    s'.Stands d ((kind, none) :: around) := by
  have htemplate := h.inside.listTemplate? hlist
  rw [enterList_of_undirected ha] at he
  cases hnone : s.listTemplate? d kind with
  | some template =>
    rw [hnone] at he
    cases he
  | none =>
    rw [hnone] at he htemplate
    cases he
    refine ⟨?_, by rw [failure_resolve]; exact h.running, ?_⟩
    · rw [scope_resolve]
      exact h.sound
    · rw [scope_resolve]
      exact ⟨h.inside.stack, .bare h.inside.covers htemplate.symm⟩

/-- A list with a series has the template of its depth. -/
theorem Stands.list (h : s.Stands d around) (hlist : kind.isList) {tag : String} {attrs attrs' : Attrs}
    (ha : attrs.Undirected) {l : ListState} (he : enterList d kind tag attrs s = (attrs', some l, s')) :
    s'.InList d kind l.series around := by
  have htemplate := h.inside.listTemplate? hlist
  have hsteps := steps_of_enterList he
  rw [enterList_of_undirected ha] at he
  cases hsome : s.listTemplate? d kind with
  | none =>
    rw [hsome] at he
    cases he
  | some template =>
    rw [hsome] at he htemplate
    cases he
    refine ⟨⟨hsteps.sound h.sound, by rw [failure_resolve]; exact h.running, ?_⟩, s.scope.stack, ?_⟩
    · rw [scope_resolve]
      exact h.inside.started h.sound hlist htemplate.symm _ d.styled
    · rw [scope_resolve]
      exact h.sound.inner_started kind template _ d.styled

theorem InList.enterItem {l : ListState} (h : s.InList d kind l.series around) {attrs : Attrs}
    (ha : attrs.Undirected) :
    (enterItem d kind l "li" attrs s).1.state.InList d kind (enterItem d kind l "li" attrs s).2.series
      around := by
  have hsteps := enterItem_steps d kind l "li" attrs s
  rw [enterItem_of_undirected ha] at hsteps ⊢
  apply h.steps hsteps
  · rw [failure_drawItem]
    exact h.running
  · rw [scope_drawItem]
    rfl

theorem InList.leaveItem {l : ListState} (h : s.InList d kind l.series around) :
    (leaveItem l s).InList d kind l.series around := by
  have hsteps := leaveItem_steps d l s
  obtain ⟨base, hinner⟩ := h.inner
  rw [leaveItem_of_running h.running] at hsteps ⊢
  exact h.steps hsteps h.running (h.sound.frames_endBelow hinner).stack

/-- A walk over a node leaves the scope inside of the same lists, if a heading in it is outside of lists. -/
theorem Stands.walk (h : s.Stands d around) {n : Draft} (hn : n.Plain)
    (hfree : headingLevels n = [] ∨ around = []) : (n.walk d s).2.Stands d around := by
  have hend := running_walk (d := d) hn h.running
  have hsteps := walk_steps d n s
  rcases hfree with hfree | rfl
  · exact h.steps hsteps hend (walk_frames d n hfree h.sound hend).stack
  · have hlists := walk_lists d n h.sound hend
    rw [h.inside.lists_eq] at hlists
    exact ⟨hsteps.sound h.sound, hend, .outside (List.sublist_nil.1 hlists)⟩

theorem InList.walk {id : SeriesId} (h : s.InList d kind id around) {n : Draft} (hn : n.Plain)
    (hfree : headingLevels n = []) : (n.walk d s).2.InList d kind id around := by
  have hend := running_walk (d := d) hn h.running
  exact h.steps (walk_steps d n s) hend (walk_frames d n hfree h.sound hend).stack

theorem InList.walkAll {id : SeriesId} (h : s.InList d kind id around) {ns : List Draft} (hns : PlainAll ns)
    (hfree : headingLevelsAll ns = []) : (walkAll d ns s).2.InList d kind id around := by
  have hend := running_walkAll (d := d) hns h.running
  exact h.steps (walkAll_steps d ns s) hend (walkAll_frames d ns hfree h.sound hend).stack

end State

namespace Draft
open Walk State

/-- In a walk without directives, the series in scope at a list are those of the lists around and the sections,
if no list has a heading in it. -/
theorem placed_cases (d : Defaults) :
    WalkCases d
      (fun n s => n.Plain → n.BareLists → ∀ around past, s.Stands d around →
        (headingLevels n = [] ∨ around = []) → ∀ v ∈ visits d around past n s, v.Placed)
      (fun ns s => PlainAll ns → BareListsAll ns → ∀ around past, s.Stands d around →
        (headingLevelsAll ns = [] ∨ around = []) → ∀ v ∈ visitsAll d around past ns s, v.Placed)
      (fun kind ns l s => PlainAll ns → BareListsAll ns → headingLevelsAll ns = [] → ∀ around past,
        s.InList d kind l.series around → ∀ v ∈ visitsItems d kind around past ns l s, v.Placed) where
  stopped n s h _ _ around past hs := absurd h (not_isStopped_iff.2 hs.running)
  leaf n s h hn _ _ around past _ _ := by simp [visits_leaf hn]
  heading level tag attrs label children s h hk _ _ around past _ _ := by simp [visits_heading h hk]
  other tag attrs label children s h hk hchildren hn hbare around past hs hfree := by
    rw [headingLevels_other (not_heading_of_none hk)] at hfree
    rw [visits_other h hk]
    exact hchildren hn.2.2 hbare.2 around _ (hs.enterElement hn.1 tag) hfree
  bareList kind tag attrs attrs' label children s s' h hk hlist he hchildren hn hbare around past hs _ v hv := by
    have hlevels := hbare.1 (by rw [hk]; exact hlist)
    rw [visits_bareList h hk hlist he] at hv
    rcases List.mem_cons.1 hv with rfl | hv
    · exact ⟨hn.1, hs.inside⟩
    · exact hchildren hn.2.2 hbare.2 _ _ (hs.bareList hlist hn.1 he) (Or.inl hlevels) v hv
  list kind tag attrs attrs' label children l s s' h hk hlist he hchildren hn hbare around past hs _ v hv := by
    have hlevels := hbare.1 (by rw [hk]; exact hlist)
    rw [visits_list h hk hlist he] at hv
    rcases List.mem_cons.1 hv with rfl | hv
    · exact ⟨hn.1, hs.inside⟩
    · exact hchildren hn.2.2 hbare.2 hlevels around _ (hs.list hlist hn.1 he) v hv
  nil s _ _ around past _ _ := by simp [visitsAll]
  cons n rest s hn hrest hplain hbare around past hs hfree v hv := by
    rw [headingLevelsAll, List.append_eq_nil_iff] at hfree
    rw [visitsAll] at hv
    rcases List.mem_append.1 hv with hv | hv
    · exact hn hplain.1 hbare.1 around past hs (hfree.imp_left And.left) v hv
    · exact hrest hplain.2 hbare.2 around _ (hs.walk hplain.1 (hfree.imp_left And.left))
        (hfree.imp_left And.right) v hv
  itemsStopped kind ns l s h _ _ _ around past hs := absurd h (not_isStopped_iff.2 hs.running)
  itemsNil kind l s h _ _ _ around past _ := by simp [visitsItems]
  itemsLeaf kind n rest l s h hn hrest hplain hbare hfree around past hs := by
    rw [visitsItems_leaf hn]
    exact hrest hplain.2 hbare.2 (List.append_eq_nil_iff.1 hfree).2 around past hs
  item kind attrs label content rest l s h hcontent hrest hplain hbare hfree around past hs v hv := by
    obtain ⟨hlevels, hrestLevels⟩ := List.append_eq_nil_iff.1 hfree
    rw [headingLevels_other not_heading_li] at hlevels
    have hbegun := hs.enterItem hplain.1.1
    rw [visitsItems_item h] at hv
    rcases List.mem_append.1 hv with hv | hv
    · exact hcontent hplain.1.2.2 hbare.1.2 _ _ hbegun.toStands (Or.inl hlevels) v hv
    · exact hrest hplain.2 hbare.2 hrestLevels around _ (hbegun.walkAll hplain.1.2.2 hlevels).leaveItem v hv
  itemsOther kind tag attrs label content rest l s h hli hn hrest hplain hbare hfree around past hs v hv := by
    obtain ⟨hlevels, hrestLevels⟩ := List.append_eq_nil_iff.1 hfree
    rw [visitsItems_other h hli] at hv
    rcases List.mem_append.1 hv with hv | hv
    · exact hn hplain.1 hbare.1 _ _ hs.toStands (Or.inl hlevels) v hv
    · exact hrest hplain.2 hbare.2 hrestLevels around _ (hs.walk hplain.1 hlevels) v hv

end Draft

/-! ## Runs -/

/-- The template of lists of a kind that the settings give. -/
def Settings.listTemplate? (settings : Settings) (kind : ElementKind) : Option Template :=
  (settings.listLabels kind).bind fun source => (Template.parse source).toOption

theorem Defaults.list_ofSettings {c c' : Template.Context} {settings : Settings} {d : Defaults}
    (h : ofSettings c settings = (.ok d, c')) (kind : ElementKind) :
    (d.list kind).map Template.Instance.template = settings.listTemplate? kind := by
  obtain ⟨hnone, hsome⟩ := reads_ofSettings h kind
  rw [Settings.listTemplate?]
  cases hsource : settings.listLabels kind with
  | none =>
    rw [hnone hsource]
    rfl
  | some source =>
    obtain ⟨t, n, ht, hd, -⟩ := hsome source hsource
    rw [hd, Option.bind_some, ht]
    rfl

namespace Labelling
open State Draft

/-- A document without directives and without headings in lists is labelled whenever the settings can be read.
The run comes to all lists of the document. A list has a series just if the template of its kind has a segment
for its depth, and then its series shows that segment, below the series that the marker of the segment asks for
among those of the lists around and the open sections. -/
theorem lists_by_depth {l : Labelling} {c c' : Template.Context} {d : Defaults} {doc : Node}
    (hread : Defaults.ofSettings c l.settings = (.ok d, c')) (hdoc : doc.Undirected) (hbare : doc.BareLists) :
    (∃ report, (l.apply c doc).result = .ok report) ∧
      (l.listVisits c doc).map ListVisit.site = doc.listSites ∧
      ∀ v ∈ l.listVisits c doc,
        (∃ rest, l.moments c doc = v.past ++ (v.moments ++ rest)) ∧
        v.sections.Pairwise (fun a b => b.2.number < a.2.number) ∧
        v.series?.map Series.segment =
          (l.settings.listTemplate? v.kind).bind (fun t => t.segmentAt? v.site.depth) ∧
        ∀ own, v.series? = some own → own.parent = own.segment.parent.bind v.chosen := by
  have hend : (l.draft c (.ofNode doc)).state.failure = none := running_of_undirected hread hdoc
  have hplain := (plain_ofNode doc hdoc).markRefs none
  refine ⟨⟨_, result_of_running hend⟩, ?_, fun v hv => ?_⟩
  · rw [draft, hread] at hend
    rw [listVisits, hread]
    exact ((sites_cases d).walk _ _ hend [] []).trans (listSites_markRefs [] none _)
  · obtain ⟨d', c'', hread', hwithin⟩ := l.listVisits_within c doc v hv
    rw [hread] at hread'
    cases hread'
    obtain ⟨pre, post, hms, hpast, hpre, -⟩ := hwithin.split
    obtain ⟨hsections, hstacked⟩ := sections_before hdoc hbare hv
    have hplaced : v.Placed := by
      rw [listVisits, hread] at hv
      exact (placed_cases d).walk _ _ hplain ((bareLists_ofNode doc hbare).markRefs none) [] []
        ⟨sound_begin c' _, rfl, .outside rfl⟩ (Or.inr rfl) v hv
    obtain ⟨hsegment, hparent⟩ := hplaced.series? hwithin.list hsections
    rw [hwithin.defaults] at hsegment
    refine ⟨⟨post, by rw [hms, hpast]; rfl⟩, ?_, ?_, hparent⟩
    · rw [← hsections]
      exact hstacked
    · rw [hsegment, ← Defaults.list_ofSettings hread, Option.bind_map]
      rfl

/-- In the second chapter, a list in an item of a list in an item of one of the other kind, whose templates ask
for the chapter, any numbered series, and a list. -/
theorem lists_by_depth_chapters :
    let l : Labelling :=
      { settings := { headingLabels := some "1", orderedLabels := some "H.1,L.a", unorderedLabels := some "X-1" } }
    let doc : Node := .root [.element "h1" [] [], .element "h1" [] [],
      .element "ol" [] [.element "li" [] [.element "ul" [] [.element "li" [] [.element "ol" [] [
        .element "li" [] [.element "ol" [] []]]]]]]]
    doc.listSites.map ListSite.depth = [0, 0, 1, 2] ∧
      (l.listVisits {} doc).map (fun v => v.series?.map Series.parent) =
        [some (some 0), some (some 1), some (some 2), none] ∧
      ∀ v ∈ l.listVisits {} doc, ∀ own, v.series? = some own → own.parent = own.segment.parent.bind v.chosen := by
  intro l doc
  have hok : (Defaults.ofSettings {} l.settings).1.toOption.isSome = true := by decide +kernel
  rcases hread : Defaults.ofSettings {} l.settings with ⟨e | d, c'⟩
  · rw [hread] at hok
    cases hok
  · obtain ⟨-, -, hlists⟩ := @lists_by_depth l {} c' d doc hread (by decide) (by decide)
    exact ⟨by decide +kernel, by decide +kernel, fun v hv => (hlists v hv).2.2.2⟩

end Labelling
end Rubric
