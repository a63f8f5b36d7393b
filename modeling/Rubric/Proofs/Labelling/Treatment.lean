import Rubric.Proofs.Labelling.Counted
import Rubric.Proofs.Labelling.Elements

/-!
# What a run does at each element

* `Moment.Treats got m e e'` : at the moment `m` the element `e` becomes `e'`, where `got` tells at which places
  there are lists with a series;
* `Treated got ms es es'` : the moments, those at the ends of items and lists left aside, treat the elements one
  by one;
* `Ledger got ms es es' t` : they do so with the first elements, and with all of them unless the walk has been
  stopped, and the others stay as they are;
* `walk_ledger` : so a walk treats the elements outside of the content of headings, in document order;
* `Labelling.stops`, `gotTemplate` : the elements that a run comes to, and the lists that get a template;
* `Labelling.ledger` : this of whole runs.
-/

namespace Rubric
open Walk

/-! ## One element -/

/-- What a moment makes of an element. An item is one of a list with a series, and other elements are not. -/
inductive Moment.Treats (got : Nat → Bool) : Moment → OuterElement → OuterElement → Prop where
  | heading {d : Defaults} {s : State} {level : HeadingLevel} {tag : String} (attrs : Attrs)
      (label : Option String) (list : Option Nat) (hk : ElementKind.ofTag? tag = some (.heading level)) :
      Treats got ⟨d, s, .heading level tag attrs⟩ ⟨tag, attrs, label, list⟩
        ⟨tag, (enterHeading d level tag attrs s).attrs, (enterHeading d level tag attrs s).label, list⟩
  | list {d : Defaults} {s : State} {kind : ElementKind} {tag : String} {attrs attrs' : Attrs}
      (label : Option String) (list : Option Nat) (hk : ElementKind.ofTag? tag = some kind) (hlist : kind.isList)
      (hdressed : (enterList d kind tag attrs s).1.Dressed attrs')
      (hbare : (enterList d kind tag attrs s).2.1 = none → attrs' = (enterList d kind tag attrs s).1) :
      Treats got ⟨d, s, .list kind tag attrs⟩ ⟨tag, attrs, label, list⟩ ⟨tag, attrs', label, list⟩
  | item {d : Defaults} {s : State} (kind : ElementKind) (l : ListState) (attrs : Attrs)
      (label : Option String) {k : Nat} (hk : got k = true) :
      Treats got ⟨d, s, .item kind l attrs⟩ ⟨"li", attrs, label, some k⟩
        ⟨"li", (enterItem d kind l "li" attrs s).1.attrs, (enterItem d kind l "li" attrs s).1.label, some k⟩
  | element {d : Defaults} {s : State} {tag : String} (attrs : Attrs) (label : Option String)
      {list : Option Nat} (hk : ElementKind.ofTag? tag = none) (hlist : list.any got = false) :
      Treats got ⟨d, s, .element tag attrs⟩ ⟨tag, attrs, label, list⟩
        ⟨tag, (enterElement tag attrs s).attrs, label, list⟩

/-- The tag and the attributes of the element that a walk comes to. -/
def Walk.Event.element? : Event → Option (String × Attrs)
  | heading _ tag attrs | list _ tag attrs | element tag attrs => some (tag, attrs)
  | item _ _ attrs => some ("li", attrs)
  | leaveItem _ | leaveList _ => none

theorem Moment.Treats.element?_eq {got : Nat → Bool} {m : Moment} {e e' : OuterElement} (h : m.Treats got e e') :
    m.event.element? = some (e.tag, e.attrs) := by
  cases h <;> rfl

/-- An event at an element, and not at the end of an item or of a list. -/
def Moment.isStop (m : Moment) : Bool := m.event.attrs?.isSome

theorem Moment.Treats.isStop {got : Nat → Bool} {m : Moment} {e e' : OuterElement} (h : m.Treats got e e') :
    m.isStop = true := by
  cases h <;> rfl

/-! ## Many elements -/

/-- The moments treat the elements one by one. -/
inductive Treated (got : Nat → Bool) : List Moment → List OuterElement → List OuterElement → Prop where
  | nil : Treated got [] [] []
  | leave {m : Moment} {ms : List Moment} {es es' : List OuterElement} (hm : m.isStop = false)
      (h : Treated got ms es es') : Treated got (m :: ms) es es'
  | stop {m : Moment} {ms : List Moment} {e e' : OuterElement} {es es' : List OuterElement}
      (hm : m.Treats got e e') (h : Treated got ms es es') : Treated got (m :: ms) (e :: es) (e' :: es')

/-- The moments treat the first elements, and all unless the walk has been stopped. The others stay. -/
def Ledger (got : Nat → Bool) (ms : List Moment) (es es' : List OuterElement) (t : State) : Prop :=
  ∃ front front' back, es = front ++ back ∧ es' = front' ++ back ∧ Treated got ms front front' ∧
    (t.failure = none → back = [])

/-- Which of the elements from a place on are lists with a series. -/
def Marks (got : Nat → Bool) (next : Nat) (ms : List Moment) : Prop :=
  ∀ (i : Nat) (m : Moment), (ms.filter Moment.isStop)[i]? = some m → got (next + i) = m.begins?.isSome

section
variable {got : Nat → Bool} {ms ms' : List Moment} {es es' fs fs' : List OuterElement} {s t u : State}
  {next : Nat}

namespace Treated

theorem append (h : Treated got ms es es') (h' : Treated got ms' fs fs') :
    Treated got (ms ++ ms') (es ++ fs) (es' ++ fs') := by
  induction h with
  | nil => exact h'
  | leave hm _ ih => exact .leave hm ih
  | stop hm _ ih => exact .stop hm ih

theorem length_stops (h : Treated got ms es es') : (ms.filter Moment.isStop).length = es.length := by
  induction h with
  | nil => rfl
  | leave hm _ ih => rwa [List.filter_cons_of_neg (by simp [hm])]
  | stop hm _ ih => rw [List.filter_cons_of_pos hm.isStop, List.length_cons, ih, List.length_cons]

theorem length_eq (h : Treated got ms es es') : es'.length = es.length := by
  induction h with
  | nil => rfl
  | leave _ _ ih => exact ih
  | stop _ _ ih => rw [List.length_cons, ih, List.length_cons]

theorem forall₂ {R : OuterElement → OuterElement → Prop} (h : Treated got ms es es')
    (hR : ∀ m ∈ ms, ∀ e e', m.Treats got e e' → R e e') : List.Forall₂ R es es' := by
  induction h with
  | nil => exact .nil
  | leave hm _ ih => exact ih (List.forall_mem_cons.1 hR).2
  | stop hm _ ih => exact .cons ((List.forall_mem_cons.1 hR).1 _ _ hm) (ih (List.forall_mem_cons.1 hR).2)

theorem forall₂_stops {R : OuterElement → Moment → Prop} (h : Treated got ms es es')
    (hR : ∀ m ∈ ms, ∀ e e', m.Treats got e e' → R e m) : List.Forall₂ R es (ms.filter Moment.isStop) := by
  induction h with
  | nil => exact .nil
  | leave hm _ ih =>
    rw [List.filter_cons_of_neg (by simp [hm])]
    exact ih (List.forall_mem_cons.1 hR).2
  | stop hm _ ih =>
    rw [List.filter_cons_of_pos hm.isStop]
    exact .cons ((List.forall_mem_cons.1 hR).1 _ _ hm) (ih (List.forall_mem_cons.1 hR).2)

end Treated

namespace Marks

theorem left (h : Marks got next (ms ++ ms')) : Marks got next ms := fun i m hm => by
  refine h i m ?_
  rw [List.filter_append, List.getElem?_append_left (List.getElem?_eq_some_iff.1 hm).1, hm]

theorem right (h : Marks got next (ms ++ ms')) : Marks got (next + (ms.filter Moment.isStop).length) ms' :=
  fun i m hm => by
    rw [Nat.add_assoc]
    refine h _ m ?_
    rw [List.filter_append, List.getElem?_append_right (Nat.le_add_right ..), Nat.add_sub_cancel_left, hm]

theorem head {m : Moment} (h : Marks got next (m :: ms)) (hm : m.isStop = true) :
    got next = m.begins?.isSome := h 0 m (by rw [List.filter_cons_of_pos hm]; rfl)

theorem tail {m : Moment} (h : Marks got next (m :: ms)) (hm : m.isStop = true) : Marks got (next + 1) ms := by
  have hright : Marks got (next + ([m].filter Moment.isStop).length) ms := right h
  rwa [List.filter_cons_of_pos hm] at hright

end Marks

namespace Ledger

theorem of_treated (h : Treated got ms es es') (t : State) : Ledger got ms es es' t :=
  ⟨es, es', [], (List.append_nil _).symm, (List.append_nil _).symm, h, fun _ => rfl⟩

theorem stopped (h : t.isStopped) (es : List OuterElement) : Ledger got [] es es t :=
  ⟨[], [], es, rfl, rfl, .nil, fun hrun => absurd h (State.not_isStopped_iff.2 hrun)⟩

theorem length_eq (h : Ledger got ms es es' t) : es'.length = es.length := by
  obtain ⟨front, front', back, rfl, rfl, htreated, -⟩ := h
  rw [List.length_append, List.length_append, htreated.length_eq]

theorem length_stops (h : Ledger got ms es es' t) (ht : ¬t.isStopped) :
    (ms.filter Moment.isStop).length = es.length := by
  obtain ⟨front, front', back, rfl, -, htreated, hback⟩ := h
  rw [hback (State.not_isStopped_iff.1 ht), List.append_nil, htreated.length_stops]

theorem cons {m : Moment} {e e' : OuterElement} (hm : m.Treats got e e') (h : Ledger got ms es es' t) :
    Ledger got (m :: ms) (e :: es) (e' :: es') t := by
  obtain ⟨front, front', back, rfl, rfl, htreated, hback⟩ := h
  exact ⟨e :: front, e' :: front', back, rfl, rfl, .stop hm htreated, hback⟩

theorem behind (h : Treated got ms [] []) (h' : Ledger got ms' es es' t) : Ledger got (ms ++ ms') es es' t := by
  obtain ⟨front, front', back, rfl, rfl, htreated, hback⟩ := h'
  exact ⟨front, front', back, rfl, rfl, h.append htreated, hback⟩

theorem congr (h : Ledger got ms es es' t) (ht : u.failure = t.failure) : Ledger got ms es es' u := by
  obtain ⟨front, front', back, rfl, rfl, htreated, hback⟩ := h
  exact ⟨front, front', back, rfl, rfl, htreated, fun hrun => hback (ht ▸ hrun)⟩

/-- What follows treats further elements. It finds nothing once the walk has been stopped. -/
theorem append (h : Ledger got ms es es' t) (hmarks : Marks got next (ms ++ ms'))
    (h' : Marks got (next + es.length) ms' → Ledger got ms' fs fs' u)
    (hstop : t.isStopped → ms' = [] ∧ fs' = fs ∧ u.isStopped) :
    Ledger got (ms ++ ms') (es ++ fs) (es' ++ fs') u := by
  by_cases ht : t.isStopped
  · obtain ⟨front, front', back, rfl, rfl, htreated, -⟩ := h
    obtain ⟨rfl, rfl, hu⟩ := hstop ht
    refine ⟨front, front', back ++ fs', List.append_assoc .., List.append_assoc .., ?_, fun hrun => ?_⟩
    · rwa [List.append_nil]
    · exact absurd hu (State.not_isStopped_iff.2 hrun)
  · have hplace := hmarks.right
    rw [h.length_stops ht] at hplace
    obtain ⟨front, front', back, rfl, rfl, htreated, hback⟩ := h
    obtain ⟨front₂, front₂', back₂, rfl, rfl, htreated₂, hback₂⟩ := h' hplace
    rw [hback (State.not_isStopped_iff.1 ht), List.append_nil, List.append_nil]
    exact ⟨front ++ front₂, front' ++ front₂', back₂, (List.append_assoc ..).symm,
      (List.append_assoc ..).symm, htreated.append htreated₂, hback₂⟩

end Ledger
end

/-! ## The walk -/

namespace Draft
open State
variable (got : Nat → Bool) (d : Defaults)

/-- A walk over a node treats its outer elements, wherever they are. If the node is an item then it is not one of a
list with a series. -/
def Kept (n : Draft) (s : State) : Prop :=
  ∀ next list, (∀ attrs label content, n = element "li" attrs label content → list.any got = false) →
    Marks got next (moments d n s) →
    Ledger got (moments d n s) (n.outerElements next list) ((walk d n s).1.outerElements next list) (walk d n s).2

def KeptAll (ns : List Draft) (s : State) : Prop :=
  ∀ next list, list.any got = false → Marks got next (momentsAll d ns s) →
    Ledger got (momentsAll d ns s) (outerElementsAll next list ns)
      (outerElementsAll next list (walkAll d ns s).1) (walkAll d ns s).2

/-- A walk over the children of a list with a series treats their outer elements. The list gains classes of
labels alone. -/
def KeptItems (kind : ElementKind) (ns : List Draft) (l : ListState) (s : State) : Prop :=
  (∀ name ∈ l.classes, Css.IsLabelClass name) →
    (∀ name ∈ (walkItems d kind ns l s).2.1.classes, Css.IsLabelClass name) ∧
    ∀ next k, got k = true → Marks got next (momentsItems d kind ns l s) →
      Ledger got (momentsItems d kind ns l s) (outerElementsAll next (some k) ns)
        (outerElementsAll next (some k) (walkItems d kind ns l s).1) (walkItems d kind ns l s).2.2

variable {got d}

theorem comesTo_leave {e : Event} (he : e.attrs? = none) (s : State) :
    Treated got (comesTo d s e) [] [] := by
  rw [comesTo]
  split
  · exact .nil
  · exact .leave (by rw [Moment.isStop, he]; rfl) .nil

theorem kept_cases : WalkCases d (Kept got d) (KeptAll got d) (KeptItems got d) where
  stopped n s h next list _ _ := by
    rw [walk_stopped h, moments_stopped h]
    exact .stopped h _
  leaf n s h hn next list _ _ := by
    rw [walk_leaf hn, moments_leaf hn, outerElements_leaf hn]
    exact .of_treated .nil s
  heading level tag attrs label children s h hk next list _ _ := by
    rw [walk_heading h hk, moments_heading h hk, outerElements_heading hk, outerElements_heading hk]
    exact .of_treated (.stop (.heading attrs label _ hk) .nil) _
  other tag attrs label children s h hk hchildren next list hlist hmarks := by
    rw [moments_other h hk] at hmarks
    rw [walk_other h hk, moments_other h hk, outerElements_other hk, outerElements_other hk]
    have hinside := hchildren (next + 1) none rfl (hmarks.tail rfl)
    refine hinside.cons (.element attrs label hk ?_)
    split
    · rename_i hli
      exact hlist attrs label children (by rw [hli])
    · rfl
  bareList kind tag attrs attrs' label children s s' h hk hlist he hchildren next list _ hmarks := by
    have hbegins : Moment.begins? ⟨d, s, .list kind tag attrs⟩ = none := by
      rw [Moment.begins?, Event.begins?, he]
      rfl
    rw [moments_bareList h hk hlist he] at hmarks
    rw [walk_bareList h hk hlist he, moments_bareList h hk hlist he, outerElements_list hk hlist,
      outerElements_list hk hlist]
    have hgot : got next = false := by rw [hmarks.head rfl, hbegins]; rfl
    have hinside := hchildren (next + 1) (some next) hgot (hmarks.tail rfl)
    refine hinside.cons (.list label _ hk hlist ?_ fun _ => ?_)
    · rw [he]
      exact .refl
    · rw [he]
  list kind tag attrs attrs' label children l s s' h hk hlist he hchildren next list _ hmarks := by
    have hbegins : Moment.begins? ⟨d, s, .list kind tag attrs⟩ = some l.series := by
      rw [Moment.begins?, Event.begins?, he]
      rfl
    obtain ⟨hclasses, hinside⟩ := hchildren (by rw [(kept_enterList he).2 l rfl]; simp)
    rw [moments_list h hk hlist he] at hmarks
    rw [walk_list h hk hlist he, moments_list h hk hlist he, outerElements_list hk hlist,
      outerElements_list hk hlist]
    have hgot : got next = true := by rw [hmarks.head rfl, hbegins]; rfl
    have hledger := hinside (next + 1) next hgot (hmarks.tail rfl)
    refine (hledger.congr (failure_leaveList ..)).cons (.list label _ hk hlist ?_ fun hnone => ?_)
    · rw [he]
      exact Attrs.Dressed.refl.foldl_addClass hclasses
    · rw [he] at hnone
      cases hnone
  nil s next list _ _ := by
    rw [walkAll_nil, momentsAll]
    exact .of_treated .nil s
  cons n rest s hn hrest next list hlist hmarks := by
    rw [momentsAll] at hmarks
    have hfirst := hn next list (fun _ _ _ _ => hlist) hmarks.left
    rw [walkAll_cons, momentsAll, outerElementsAll, outerElementsAll, hfirst.length_eq]
    refine hfirst.append hmarks (hrest _ list hlist) fun hstop => ?_
    rw [momentsAll_stopped hstop, walkAll_stopped hstop]
    exact ⟨rfl, rfl, hstop⟩
  itemsStopped kind ns l s h hl := by
    rw [walkItems_stopped h, momentsItems_stopped h]
    exact ⟨hl, fun next k _ _ => .stopped h _⟩
  itemsNil kind l s h hl := by
    rw [walkItems_nil, momentsItems]
    exact ⟨hl, fun next k _ _ => .of_treated (comesTo_leave rfl s) s⟩
  itemsLeaf kind n rest l s h hn hrest hl := by
    obtain ⟨hclasses, hinside⟩ := hrest hl
    rw [walkItems_leaf hn, momentsItems_leaf hn]
    refine ⟨hclasses, fun next k hk hmarks => ?_⟩
    rw [outerElementsAll, outerElementsAll, outerElements_leaf hn]
    exact hinside next k hk hmarks
  item kind attrs label content rest l s h hcontent hrest hl := by
    obtain ⟨hclasses, hinside⟩ := hrest fun name hname =>
      ((kept_enterItem d kind l "li" attrs s).2 name hname).elim (hl name) id
    rw [walkItems_item h, momentsItems_item h]
    refine ⟨hclasses, fun next k hk hmarks => ?_⟩
    rw [outerElementsAll, outerElementsAll, outerElements_other rfl, outerElements_other rfl, if_pos rfl]
    have hafter := hmarks.tail rfl
    have hfirst := hcontent (next + 1) none rfl hafter.left
    rw [List.length_cons, List.length_cons, hfirst.length_eq]
    -- behind the content comes the end of the item
    refine (hfirst.append hafter (fun hmarks => ?_) fun hstop => ?_).cons (.item kind l attrs label hk)
    · have hleave : Treated got (comesTo d (walkAll d content (enterItem d kind l "li" attrs s).1.state).2
          (.leaveItem (enterItem d kind l "li" attrs s).2)) [] [] := comesTo_leave rfl _
      have hmarks := hmarks.right
      rw [hleave.length_stops, List.length_nil, Nat.add_zero, Nat.add_assoc, Nat.add_comm 1] at hmarks
      exact .behind hleave (hinside _ k hk hmarks)
    · dsimp only
      rw [comesTo_stopped hstop, leaveItem_stopped hstop, momentsItems_stopped hstop, walkItems_stopped hstop]
      exact ⟨rfl, rfl, hstop⟩
  itemsOther kind tag attrs label content rest l s h hli hn hrest hl := by
    obtain ⟨hclasses, hinside⟩ := hrest hl
    rw [walkItems_other h hli, momentsItems_other h hli]
    refine ⟨hclasses, fun next k hk hmarks => ?_⟩
    have hfirst := hn next (some k) (fun _ _ _ heq => absurd (Draft.element.inj heq).1 hli) hmarks.left
    rw [outerElementsAll, outerElementsAll, hfirst.length_eq]
    refine hfirst.append hmarks (hinside _ k hk) fun hstop => ?_
    rw [momentsItems_stopped hstop, walkItems_stopped hstop]
    exact ⟨rfl, rfl, hstop⟩

/-- A walk treats the elements that it comes to, in document order. -/
theorem walk_ledger (n : Draft) (s : State) : Kept got d n s := kept_cases.walk n s

end Draft

/-! ## Runs -/

namespace Labelling
open Draft
variable (l : Labelling) (c : Template.Context) (doc : Node)

def stops : List Moment := (l.moments c doc).filter Moment.isStop

def gotTemplate (place : Nat) : Bool := (l.stops c doc)[place]?.any (·.begins?.isSome)

theorem marks_moments : Marks (l.gotTemplate c doc) 0 (l.moments c doc) := fun i m hm => by
  have hm : (l.stops c doc)[i]? = some m := hm
  rw [Nat.zero_add, gotTemplate, hm, Option.any_some]

/-- A run treats the elements that it comes to, in document order. -/
theorem ledger :
    Ledger (l.gotTemplate c doc) (l.moments c doc) doc.outerElements
      ((l.draft c (.ofNode doc)).draft.outerElements 0 none) (l.draft c (.ofNode doc)).state := by
  have hmarks := l.marks_moments c doc
  generalize l.gotTemplate c doc = got at hmarks ⊢
  rw [moments] at hmarks ⊢
  rw [draft]
  rcases hread : Defaults.ofSettings c l.settings with ⟨e | d, c'⟩ <;> rw [hread] at hmarks
  · exact .stopped rfl _
  · rw [Node.outerElements, ← outerElements_markRefs none]
    exact walk_ledger _ _ 0 none (fun _ _ _ _ => rfl) hmarks

/-- The labelled document is the one with its outer elements as a run leaves them. -/
theorem relabelled {d : Defaults} {c' : Template.Context}
    (hread : Defaults.ofSettings c l.settings = (.ok d, c')) :
    doc.Relabelled l.typeset ((l.draft c (.ofNode doc)).draft.outerElements 0 none)
      [(l.apply c doc).document] := by
  have hdraft : (l.draft c (.ofNode doc)).draft = (((Draft.ofNode doc).markRefs none).walk d
      (begin c' ((Draft.ofNode doc).markRefs none))).1 := by rw [draft, hread]
  have hbare : (l.draft c (.ofNode doc)).draft.bare = ((Draft.ofNode doc).markRefs none).bare := by
    rw [hdraft, bare_walk]
  have hnode := relabelled_toNodes l.typeset (l.draft c (.ofNode doc)).state.refs doc none hbare 0 none
  rw [apply]
  cases doc with
  | text s =>
    have htext : (l.draft c (.ofNode (.text s))).draft = .text s := (l.of_draft c (.text s)).2 s rfl
    rw [htext] at hnode ⊢
    exact hnode
  | element tag attrs children =>
    generalize l.draft c (.ofNode (.element tag attrs children)) = run at hbare hnode
    cases h : run.draft with
    | element => rwa [h] at hnode
    | text | split => rw [h] at hbare; cases hbare

end Labelling
end Rubric
