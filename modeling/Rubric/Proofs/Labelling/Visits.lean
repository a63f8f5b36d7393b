import Rubric.Proofs.Labelling.Nesting

/-!
# The lists that a walk comes to

* `ListVisit` : a list at which a walk arrives: what is around it, what has been before, and the state in
  which the walk comes to it. `ListVisit.result` and `after` are what the walk makes of it;
* `Draft.visits`, `visitsAll`, `visitsItems` : the lists of a walk outside of headings, in document order;
* `ListVisit.Within` : the moments of a visit are those in the middle of a walk;
* `within_cases` : so they are for the visits of a walk;
* `Draft.lists` : the lists of a draft; `results_cases` : those of what a walk makes are the results of the
  visits; `Node.lists`, `Draft.lists_toNode` : so are those of the document;
* `Labelling.listVisits` : the visits of a run.
-/

namespace Rubric

/-- A walk that comes to a list. -/
structure ListVisit where
  defaults : Defaults
  kind : ElementKind
  tag : String
  attrs : Attrs
  label : Option String
  children : List Draft
  /-- The lists around it, innermost first, and the series in which their items are numbered there. -/
  around : List (ElementKind × Option SeriesId)
  /-- The moments before it. -/
  past : List Moment
  before : State

namespace ListVisit
open Walk

def element (v : ListVisit) : Draft := .element v.tag v.attrs v.label v.children

def result (v : ListVisit) : Draft := (v.element.walk v.defaults v.before).1

def after (v : ListVisit) : State := (v.element.walk v.defaults v.before).2

/-- The moments of the list and of what is in it. -/
def moments (v : ListVisit) : List Moment := v.element.moments v.defaults v.before

/-- The list at the beginning: its attributes, its series if it has one, and the state in front of its
children. -/
def entered (v : ListVisit) : Attrs × Option ListState × State :=
  enterList v.defaults v.kind v.tag v.attrs v.before

def series? (v : ListVisit) : Option Series :=
  v.entered.2.1.bind fun l => v.entered.2.2.scope.roster.view? l.series

end ListVisit

namespace Draft
open Walk

mutual
/-- The lists that a walk over a node comes to, where some lists are around it and some moments before it. -/
def visits (d : Defaults) (around : List (ElementKind × Option SeriesId)) (past : List Moment) :
    Draft → State → List ListVisit
  | element tag attrs label children, s =>
    if s.isStopped then []
    else
      match ElementKind.ofTag? tag with
      | some (.heading _) => []
      | some kind =>
        ⟨d, kind, tag, attrs, label, children, around, past, s⟩ ::
          match enterList d kind tag attrs s with
          | (_, none, s') =>
            visitsAll d ((kind, none) :: around) (past ++ [⟨d, s, .list kind tag attrs⟩]) children s'
          | (_, some l, s') =>
            visitsItems d kind around (past ++ [⟨d, s, .list kind tag attrs⟩]) children l s'
      | none =>
        visitsAll d around (past ++ [⟨d, s, .element tag attrs⟩]) children (enterElement tag attrs s).state
  | _, _ => []

def visitsAll (d : Defaults) (around : List (ElementKind × Option SeriesId)) (past : List Moment) :
    List Draft → State → List ListVisit
  | [], _ => []
  | n :: rest, s =>
    visits d around past n s ++ visitsAll d around (past ++ moments d n s) rest (walk d n s).2

def visitsItems (d : Defaults) (kind : ElementKind) (around : List (ElementKind × Option SeriesId))
    (past : List Moment) : List Draft → ListState → State → List ListVisit
  | [], _, _ => []
  | element tag attrs label content :: rest, l, s =>
    if s.isStopped then []
    else if tag = "li" then
      let e := enterItem d kind l tag attrs s
      let after := (walkAll d content e.1.state).2
      let begun := past ++ [⟨d, s, .item kind l attrs⟩]
      visitsAll d ((kind, some e.2.series) :: around) begun content e.1.state ++
        visitsItems d kind around
          (begun ++ (momentsAll d content e.1.state ++ comesTo d after (.leaveItem e.2))) rest e.2
          (leaveItem e.2 after)
    else
      visits d ((kind, some l.series) :: around) past (element tag attrs label content) s ++
        visitsItems d kind around (past ++ moments d (element tag attrs label content) s) rest l
          (walk d (element tag attrs label content) s).2
  | _ :: rest, l, s => visitsItems d kind around past rest l s
end

/-! ## The visits, case by case -/

section Cases
variable {d : Defaults} {around : List (ElementKind × Option SeriesId)} {past : List Moment}
  {kind : ElementKind} {tag : String} {attrs attrs' : Attrs} {label : Option String}
  {children rest : List Draft} {l : ListState} {s s' : State} {n : Draft}

theorem visits_stopped (h : s.isStopped) (n : Draft) : visits d around past n s = [] := by
  cases n with
  | element => exact if_pos h
  | text => rfl
  | split => rfl

theorem visits_leaf (hn : n.Leaf) : visits d around past n s = [] := by
  cases n with
  | text => rfl
  | split => rfl
  | element => exact (hn _ _ _ _ rfl).elim

theorem visits_heading {level : HeadingLevel} (h : ¬s.isStopped)
    (hk : ElementKind.ofTag? tag = some (.heading level)) :
    visits d around past (element tag attrs label children) s = [] := by
  refine (if_neg h).trans ?_
  rw [hk]

theorem visits_other (h : ¬s.isStopped) (hk : ElementKind.ofTag? tag = none) :
    visits d around past (element tag attrs label children) s =
      visitsAll d around (past ++ [⟨d, s, .element tag attrs⟩]) children
        (enterElement tag attrs s).state := by
  refine (if_neg h).trans ?_
  rw [hk]

theorem visits_bareList (h : ¬s.isStopped) (hk : ElementKind.ofTag? tag = some kind)
    (hlist : kind.isList) (he : enterList d kind tag attrs s = (attrs', none, s')) :
    visits d around past (element tag attrs label children) s =
      ⟨d, kind, tag, attrs, label, children, around, past, s⟩ ::
        visitsAll d ((kind, none) :: around) (past ++ [⟨d, s, .list kind tag attrs⟩]) children s' := by
  refine (if_neg h).trans ?_
  rw [hk]
  cases kind with
  | heading => cases hlist
  | orderedList => simp only [he]
  | unorderedList => simp only [he]

theorem visits_list (h : ¬s.isStopped) (hk : ElementKind.ofTag? tag = some kind)
    (hlist : kind.isList) (he : enterList d kind tag attrs s = (attrs', some l, s')) :
    visits d around past (element tag attrs label children) s =
      ⟨d, kind, tag, attrs, label, children, around, past, s⟩ ::
        visitsItems d kind around (past ++ [⟨d, s, .list kind tag attrs⟩]) children l s' := by
  refine (if_neg h).trans ?_
  rw [hk]
  cases kind with
  | heading => cases hlist
  | orderedList => simp only [he]
  | unorderedList => simp only [he]

theorem visitsItems_leaf (hn : n.Leaf) :
    visitsItems d kind around past (n :: rest) l s = visitsItems d kind around past rest l s := by
  cases n with
  | text => rfl
  | split => rfl
  | element => exact (hn _ _ _ _ rfl).elim

theorem visitsItems_stopped (h : s.isStopped) (ns : List Draft) :
    visitsItems d kind around past ns l s = [] := by
  induction ns with
  | nil => rfl
  | cons n rest ih =>
    cases n with
    | element => exact if_pos h
    | text content => rw [visitsItems_leaf (leaf_text content), ih]
    | split target pieces => rw [visitsItems_leaf (leaf_split target pieces), ih]

theorem visitsItems_item {content : List Draft} (h : ¬s.isStopped) :
    visitsItems d kind around past (element "li" attrs label content :: rest) l s =
      let e := enterItem d kind l "li" attrs s
      let after := (walkAll d content e.1.state).2
      let begun := past ++ [⟨d, s, .item kind l attrs⟩]
      visitsAll d ((kind, some e.2.series) :: around) begun content e.1.state ++
        visitsItems d kind around
          (begun ++ (momentsAll d content e.1.state ++ comesTo d after (.leaveItem e.2))) rest e.2
          (leaveItem e.2 after) := by
  exact (if_neg h).trans (if_pos rfl)

theorem visitsItems_other {content : List Draft} (h : ¬s.isStopped) (htag : tag ≠ "li") :
    visitsItems d kind around past (element tag attrs label content :: rest) l s =
      visits d ((kind, some l.series) :: around) past (element tag attrs label content) s ++
        visitsItems d kind around (past ++ moments d (element tag attrs label content) s) rest l
          (walk d (element tag attrs label content) s).2 := by
  exact (if_neg h).trans (if_neg htag)

end Cases
end Draft

/-! ## The moments of a visit -/

/-- The list is one of its kind, and its moments are those in the middle of a walk from one state to
another, which has some moments before it. -/
structure ListVisit.Within (v : ListVisit) (d : Defaults) (past : List Moment) (s : State)
    (ms : List Moment) (t : State) : Prop where
  running : v.before.failure = none
  kind : ElementKind.ofTag? v.tag = some v.kind
  list : v.kind.isList
  defaults : v.defaults = d
  split : ∃ pre post, ms = pre ++ (v.moments ++ post) ∧ v.past = past ++ pre ∧ Trace d s pre v.before ∧
    Trace d v.after post t

namespace ListVisit.Within
variable {v : ListVisit} {d : Defaults} {past ms ms' : List Moment} {s s' t t' : State}

theorem behind (h : v.Within d (past ++ ms') s' ms t) (hms : Trace d s ms' s') :
    v.Within d past s (ms' ++ ms) t := by
  obtain ⟨pre, post, rfl, hpast, hpre, hpost⟩ := h.split
  refine ⟨h.running, h.kind, h.list, h.defaults, ms' ++ pre, post, ?_, ?_, hms.append hpre, hpost⟩
  · rw [List.append_assoc]
  · rw [hpast, List.append_assoc]

theorem append (h : v.Within d past s ms t') (hms : Trace d t' ms' t) : v.Within d past s (ms ++ ms') t := by
  obtain ⟨pre, post, rfl, hpast, hpre, hpost⟩ := h.split
  refine ⟨h.running, h.kind, h.list, h.defaults, pre, post ++ ms', ?_, hpast, hpre, hpost.append hms⟩
  rw [List.append_assoc, List.append_assoc]

theorem running_after (h : v.Within d past s ms t) (hend : t.failure = none) : v.after.failure = none := by
  obtain ⟨pre, post, -, -, -, hpost⟩ := h.split
  exact hpost.running_of_end hend

theorem sound (h : v.Within d past s ms t) (hs : s.scope.Sound) : v.before.scope.Sound := by
  obtain ⟨pre, post, -, -, hpre, -⟩ := h.split
  exact (hpre.preserves (P := fun s => s.scope.Sound) hs fun m _ _ hm => (m.event.steps m.before).sound hm).2

theorem moments_subset (h : v.Within d past s ms t) : v.moments ⊆ ms := by
  obtain ⟨pre, post, rfl, -⟩ := h.split
  exact List.subset_append_of_subset_right _ (List.subset_append_left _ _)

end ListVisit.Within

namespace Draft
open Walk State

theorem trace_enterList {d : Defaults} {kind : ElementKind} {tag : String} {attrs attrs' : Attrs}
    {l : Option ListState} {s s' : State} (hrun : s.failure = none)
    (he : enterList d kind tag attrs s = (attrs', l, s')) : Trace d s [⟨d, s, .list kind tag attrs⟩] s' := by
  have hnext : Event.next d (.list kind tag attrs) s = s' := by rw [Event.next, he]
  rw [← hnext]
  exact .cons hrun (.nil _)

/-- The visits of a walk are in the middle of it. -/
theorem within_cases (d : Defaults) :
    WalkCases d
      (fun n s => ∀ around past, ∀ v ∈ visits d around past n s,
        v.Within d past s (moments d n s) (walk d n s).2)
      (fun ns s => ∀ around past, ∀ v ∈ visitsAll d around past ns s,
        v.Within d past s (momentsAll d ns s) (walkAll d ns s).2)
      (fun kind ns l s => ∀ around past, ∀ v ∈ visitsItems d kind around past ns l s,
        v.Within d past s (momentsItems d kind ns l s)
          (leaveList (walkItems d kind ns l s).2.1 (walkItems d kind ns l s).2.2)) where
  stopped n s h around past := by simp [visits_stopped h]
  leaf n s h hn around past := by simp [visits_leaf hn]
  heading level tag attrs label children s h hk around past := by simp [visits_heading h hk]
  other tag attrs label children s h hk hchildren around past v hv := by
    rw [visits_other h hk] at hv
    rw [moments_other h hk, walk_other h hk]
    exact (hchildren _ _ v hv).behind (.cons (not_isStopped_iff.1 h) (.nil _))
  bareList kind tag attrs attrs' label children s s' h hk hlist he hchildren around past v hv := by
    have hrun := not_isStopped_iff.1 h
    have hstep := trace_enterList hrun he
    rw [visits_bareList h hk hlist he] at hv
    rcases List.mem_cons.1 hv with rfl | hv
    · exact ⟨hrun, hk, hlist, rfl, [], [], (List.append_nil _).symm, (List.append_nil _).symm, .nil s, .nil _⟩
    · rw [moments_bareList h hk hlist he, walk_bareList h hk hlist he]
      exact (hchildren _ _ v hv).behind hstep
  list kind tag attrs attrs' label children l s s' h hk hlist he hchildren around past v hv := by
    have hrun := not_isStopped_iff.1 h
    have hstep := trace_enterList hrun he
    rw [visits_list h hk hlist he] at hv
    rcases List.mem_cons.1 hv with rfl | hv
    · exact ⟨hrun, hk, hlist, rfl, [], [], (List.append_nil _).symm, (List.append_nil _).symm, .nil s, .nil _⟩
    · rw [moments_list h hk hlist he, walk_list h hk hlist he]
      exact (hchildren _ _ v hv).behind hstep
  nil s around past := by simp [visitsAll]
  cons n rest s hn hrest around past v hv := by
    rw [visitsAll] at hv
    rw [momentsAll, walkAll_cons]
    rcases List.mem_append.1 hv with hv | hv
    · exact (hn _ _ v hv).append (walkAll_trace d rest _)
    · exact (hrest _ _ v hv).behind (walk_trace d n s)
  itemsStopped kind ns l s h around past := by simp [visitsItems_stopped h]
  itemsNil kind l s h around past := by simp [visitsItems]
  itemsLeaf kind n rest l s h hn hrest around past v hv := by
    rw [visitsItems_leaf hn] at hv
    rw [momentsItems_leaf hn, walkItems_leaf hn]
    exact hrest _ _ v hv
  item kind attrs label content rest l s h hcontent hrest around past v hv := by
    have hstep : Trace d s [⟨d, s, .item kind l attrs⟩] (enterItem d kind l "li" attrs s).1.state :=
      .cons (not_isStopped_iff.1 h) (.nil _)
    have hleave := comesTo_trace d (s := (walkAll d content (enterItem d kind l "li" attrs s).1.state).2)
      (e := .leaveItem (enterItem d kind l "li" attrs s).2) (leaveItem_stopped · _)
    rw [visitsItems_item h] at hv
    rw [momentsItems_item h, walkItems_item h]
    rcases List.mem_append.1 hv with hv | hv
    · exact ((hcontent _ _ v hv).append (hleave.append (walkItems_trace d kind rest _ _))).behind hstep
    · have hinside := ((hrest _ _ v hv).behind ((walkAll_trace d content _).append hleave)).behind hstep
      simpa only [List.append_assoc, List.singleton_append] using hinside
  itemsOther kind tag attrs label content rest l s h hli hn hrest around past v hv := by
    rw [visitsItems_other h hli] at hv
    rw [momentsItems_other h hli, walkItems_other h hli]
    rcases List.mem_append.1 hv with hv | hv
    · exact (hn _ _ v hv).append (walkItems_trace d kind rest _ _)
    · exact (hrest _ _ v hv).behind (walk_trace d (element tag attrs label content) s)

/-! ## The results of the visits -/

mutual
/-- The lists of a draft that are not in a heading, in document order. -/
def lists : Draft → List Draft
  | element tag attrs label children =>
    match ElementKind.ofTag? tag with
    | some (.heading _) => []
    | some _ => element tag attrs label children :: listsAll children
    | none => listsAll children
  | text _ | split _ _ => []

def listsAll : List Draft → List Draft
  | [] => []
  | n :: rest => lists n ++ listsAll rest
end

section Lists
variable {kind : ElementKind} {tag : String} {attrs : Attrs} {label : Option String} {children : List Draft}

theorem lists_leaf {n : Draft} (hn : n.Leaf) : n.lists = [] := by
  cases n with
  | text => rfl
  | split => rfl
  | element => exact (hn _ _ _ _ rfl).elim

theorem lists_heading {level : HeadingLevel} (hk : ElementKind.ofTag? tag = some (.heading level)) :
    (element tag attrs label children).lists = [] := by
  rw [lists, hk]

theorem lists_other (hk : ElementKind.ofTag? tag = none) :
    (element tag attrs label children).lists = listsAll children := by
  rw [lists, hk]

theorem lists_list (hk : ElementKind.ofTag? tag = some kind) (hlist : kind.isList) :
    (element tag attrs label children).lists = element tag attrs label children :: listsAll children := by
  rw [lists, hk]
  cases kind with
  | heading => cases hlist
  | orderedList => rfl
  | unorderedList => rfl

end Lists

/-- What a walk to its end makes of a draft has the results of the visits for its lists. -/
theorem results_cases (d : Defaults) :
    WalkCases d
      (fun n s => (walk d n s).2.failure = none → ∀ around past,
        (visits d around past n s).map ListVisit.result = (walk d n s).1.lists)
      (fun ns s => (walkAll d ns s).2.failure = none → ∀ around past,
        (visitsAll d around past ns s).map ListVisit.result = listsAll (walkAll d ns s).1)
      (fun kind ns l s => (walkItems d kind ns l s).2.2.failure = none → ∀ around past,
        (visitsItems d kind around past ns l s).map ListVisit.result =
          listsAll (walkItems d kind ns l s).1) where
  stopped n s h hend := absurd (running_of_walk d hend) fun hrun => not_isStopped_iff.2 hrun h
  leaf n s h hn _ around past := by
    rw [visits_leaf hn, walk_leaf hn, lists_leaf hn]
    rfl
  heading level tag attrs label children s h hk _ around past := by
    rw [visits_heading h hk, walk_heading h hk, lists_heading hk]
    rfl
  other tag attrs label children s h hk hchildren hend around past := by
    rw [walk_other h hk] at hend
    rw [visits_other h hk, walk_other h hk, lists_other hk]
    exact hchildren hend _ _
  bareList kind tag attrs attrs' label children s s' h hk hlist he hchildren hend around past := by
    rw [walk_bareList h hk hlist he] at hend
    rw [visits_bareList h hk hlist he, List.map_cons, hchildren hend, ListVisit.result, ListVisit.element,
      walk_bareList h hk hlist he, lists_list hk hlist]
  list kind tag attrs attrs' label children l s s' h hk hlist he hchildren hend around past := by
    rw [walk_list h hk hlist he, failure_leaveList] at hend
    rw [visits_list h hk hlist he, List.map_cons, hchildren hend, ListVisit.result, ListVisit.element,
      walk_list h hk hlist he, lists_list hk hlist]
  nil s _ around past := by
    rw [visitsAll, walkAll_nil]
    rfl
  cons n rest s hn hrest hend around past := by
    rw [walkAll_cons] at hend
    rw [visitsAll, List.map_append, hn (running_of_walkAll d hend), hrest hend, walkAll_cons]
    rfl
  itemsStopped kind ns l s h hend := absurd (running_of_walkItems d hend) fun hrun => not_isStopped_iff.2 hrun h
  itemsNil kind l s h _ around past := by
    rw [visitsItems, walkItems_nil]
    rfl
  itemsLeaf kind n rest l s h hn hrest hend around past := by
    rw [walkItems_leaf hn] at hend
    rw [visitsItems_leaf hn, hrest hend, walkItems_leaf hn, listsAll, lists_leaf hn]
    rfl
  item kind attrs label content rest l s h hcontent hrest hend around past := by
    have hli : ElementKind.ofTag? "li" = none := by decide
    rw [walkItems_item h] at hend
    have hafter := (failure_leaveItem _ _).symm.trans (running_of_walkItems d hend)
    rw [visitsItems_item h, List.map_append, hcontent hafter, hrest hend, walkItems_item h, listsAll,
      lists_other hli]
  itemsOther kind tag attrs label content rest l s h hli hn hrest hend around past := by
    rw [walkItems_other h hli] at hend
    rw [visitsItems_other h hli, List.map_append, hn (running_of_walkItems d hend), hrest hend,
      walkItems_other h hli, listsAll]

end Draft

/-! ## The lists of a document -/

namespace Node

mutual
/-- The lists of a node that are not in a heading, in document order. -/
def lists : Node → List Node
  | element tag attrs children =>
    match ElementKind.ofTag? tag with
    | some (.heading _) => []
    | some _ => element tag attrs children :: listsAll children
    | none => listsAll children
  | text _ => []

def listsAll : List Node → List Node
  | [] => []
  | n :: rest => lists n ++ listsAll rest
end

theorem lists_other {tag : String} (hk : ElementKind.ofTag? tag = none) (attrs : Attrs) (children : List Node) :
    (element tag attrs children).lists = listsAll children := by
  rw [lists, hk]

theorem listsAll_append (ns ms : List Node) : listsAll (ns ++ ms) = listsAll ns ++ listsAll ms := by
  induction ns with
  | nil => rfl
  | cons n rest ih => rw [List.cons_append, listsAll, ih, listsAll, List.append_assoc]

end Node

namespace Draft
open Node
variable {typeset : Typesetting}

theorem lists_span (attrs : Attrs) (children : List Node) :
    (Node.element "span" attrs children).lists = Node.listsAll children :=
  Node.lists_other (by decide) attrs children

theorem listsAll_label (h : ∀ s, Node.listsAll (typeset s) = []) (label : Option String) :
    Node.listsAll (label.map (labelSpan typeset)).toList = [] := by
  cases label with
  | none => rfl
  | some label =>
    rw [Option.map_some, Option.toList_some, Node.listsAll, labelSpan, lists_span, h]
    rfl

theorem listsAll_pieces (h : ∀ s, Node.listsAll (typeset s) = []) (table : RefTable) (target : String)
    (pieces : List Piece) : Node.listsAll (pieces.map (pieceNode typeset table target)) = [] := by
  induction pieces with
  | nil => rfl
  | cons p rest ih =>
    rw [List.map_cons, Node.listsAll, ih, List.append_nil]
    cases p with
    | literal s => rfl
    | marker s selector =>
      rw [pieceNode, refSpan, lists_span]
      cases selector.bind fun sel => table.label? ⟨target, sel⟩ with
      | none => rfl
      | some label => exact h label

mutual
theorem listsAll_toNodes (h : ∀ s, Node.listsAll (typeset s) = []) (table : RefTable) (n : Draft) :
    Node.listsAll (toNodes typeset table n) = n.lists.map (toNode typeset table) := by
  cases n with
  | text content => rfl
  | split target pieces => exact listsAll_pieces h table target pieces
  | element tag attrs label children =>
    have hinside : Node.listsAll ((label.map (labelSpan typeset)).toList ++ toNodesAll typeset table children) =
        (listsAll children).map (toNode typeset table) := by
      rw [Node.listsAll_append, listsAll_label h, List.nil_append, listsAll_toNodesAll h table children]
    rw [toNodes, Node.listsAll, Node.listsAll, List.append_nil]
    cases hk : ElementKind.ofTag? tag with
    | none => rw [Node.lists_other hk, hinside, lists_other hk]
    | some kind =>
      rw [Node.lists, lists, hk]
      cases kind with
      | heading => rfl
      | orderedList | unorderedList =>
        dsimp only
        rw [hinside, List.map_cons, toNode_element]

theorem listsAll_toNodesAll (h : ∀ s, Node.listsAll (typeset s) = []) (table : RefTable) (ns : List Draft) :
    Node.listsAll (toNodesAll typeset table ns) = (listsAll ns).map (toNode typeset table) := by
  cases ns with
  | nil => rfl
  | cons n rest =>
    rw [toNodesAll, Node.listsAll_append, listsAll_toNodes h table n, listsAll_toNodesAll h table rest, listsAll,
      List.map_append]
end

theorem lists_toNode (h : ∀ s, Node.listsAll (typeset s) = []) (table : RefTable) (n : Draft) :
    (n.toNode typeset table).lists = n.lists.map (toNode typeset table) := by
  rw [← listsAll_toNodes h, toNode]
  split
  · rename_i m hm
    rw [hm, Node.listsAll, Node.listsAll, List.append_nil]
  · rw [root, Node.lists_other (by decide)]

end Draft

/-! ## Runs -/

namespace Labelling
open State Draft

/-- The lists that a run comes to. There are none if its settings cannot be read. -/
def listVisits (l : Labelling) (c : Template.Context) (doc : Node) : List ListVisit :=
  match Defaults.ofSettings c l.settings with
  | (.error _, _) => []
  | (.ok d, c) =>
    let marked := (Draft.ofNode doc).markRefs none
    marked.visits d [] [] (begin c marked)

/-- The visits of a run are in the middle of it. -/
theorem listVisits_within (l : Labelling) (c : Template.Context) (doc : Node) :
    ∀ v ∈ l.listVisits c doc, ∃ d c', Defaults.ofSettings c l.settings = (.ok d, c') ∧
      v.Within d [] (begin c' ((Draft.ofNode doc).markRefs none)) (l.moments c doc)
        (l.draft c (.ofNode doc)).state := by
  rw [listVisits, moments, draft]
  rcases Defaults.ofSettings c l.settings with ⟨e | d, c'⟩
  · simp
  · exact fun v hv => ⟨d, c', rfl, (within_cases d).walk _ _ [] [] v hv⟩

/-- The labelled draft of a run that comes to its end has the results of the visits for its lists. -/
theorem results_listVisits (l : Labelling) (c : Template.Context) (doc : Node) :
    (l.draft c (.ofNode doc)).state.failure = none →
      (l.listVisits c doc).map ListVisit.result = (l.draft c (.ofNode doc)).draft.lists := by
  rw [listVisits, draft]
  rcases Defaults.ofSettings c l.settings with ⟨e | d, c'⟩
  · exact fun hend => by cases hend
  · exact fun hend => (results_cases d).walk _ _ hend [] []

end Labelling
end Rubric
