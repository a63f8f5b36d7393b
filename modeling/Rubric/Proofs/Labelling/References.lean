import Rubric.Proofs.Labelling.Content
import Rubric.Proofs.Labelling.Moments

/-!
# What references show

* `RefTable.Waits` : a reference that is known and has no label yet; `waits_awaitAll`, `label?_resolve`,
  `Waits.resolve` : how it comes by one;
* `Moment.target?` : the id of the element that a walk comes to;
* `Event.refs_cases` : an event asks for the labels of the references to its element, in the scope behind it;
* `Trace.label?` : a reference shows the label that it gets at the first moment that has one for it;
* `Node.ids`, `targets_moments` : a walk comes to every element once at most;
* `Moment.findSome?_of_unique` : the reference to an id that only one element has shows what is in scope there.
-/

namespace Rubric

/-! ## The table of references -/

namespace RefTable
variable {t : RefTable} {key : RefKey}

/-- A reference is known and has no label yet. -/
structure Waits (t : RefTable) (key : RefKey) : Prop where
  pending : key ∈ t.pending
  unlabelled : t.label? key = none

theorem lookup_filterMap_ready (ready : RefKey → Option String) (keys : List RefKey) (key : RefKey) :
    (keys.filterMap fun k => (ready k).map (k, ·)).lookup key = if key ∈ keys then ready key else none := by
  induction keys with
  | nil => rfl
  | cons k rest ih =>
    rw [List.filterMap_cons]
    cases hready : ready k with
    | none =>
      rw [Option.map_none]
      show List.lookup key (rest.filterMap _) = _
      rw [ih]
      by_cases hk : key = k
      · simp [hk, hready]
      · simp [hk]
    | some label =>
      rw [Option.map_some]
      show List.lookup key ((k, label) :: rest.filterMap _) = _
      by_cases hk : key = k
      · simp [hk, hready]
      · rw [List.lookup_cons, show (key == k) = false by simpa using hk, ih]
        simp [hk]

/-- A label stays, and a reference that waits for the element gets the one that can be looked up. -/
theorem label?_resolve (t : RefTable) (target : String) (label? : Selector → Option String) (key : RefKey) :
    (t.resolve target label?).label? key =
      (t.label? key).or (if key ∈ t.pending then
        if key.target = target then label? key.selector else none else none) := by
  show (t.filled ++ _).lookup key = _
  rw [List.lookup_append, lookup_filterMap_ready]
  rfl

theorem Waits.resolve (h : t.Waits key) (target : String) (label? : Selector → Option String) :
    (t.resolve target label?).label? key = (if key.target = target then label? key.selector else none) ∧
      ((t.resolve target label?).label? key = none → (t.resolve target label?).Waits key) := by
  have hlabel : (t.resolve target label?).label? key =
      if key.target = target then label? key.selector else none := by
    rw [label?_resolve, h.unlabelled, if_pos h.pending, Option.none_or]
  refine ⟨hlabel, fun hnone => ⟨List.mem_filter.2 ⟨h.pending, ?_⟩, hnone⟩⟩
  show (if key.target = target then label? key.selector else none).isNone = true
  rw [← hlabel, hnone]
  rfl

theorem Waits.await (h : t.Waits key) (k : RefKey) : (t.await k).Waits key := by
  rw [RefTable.await]
  split
  · exact h
  · exact ⟨List.mem_append_left _ h.pending, h.unlabelled⟩

theorem waits_await (h : t.label? key = none) : (t.await key).Waits key := by
  rw [RefTable.await, knows, h]
  split
  · rename_i hknown
    exact ⟨by simpa using hknown, h⟩
  · exact ⟨List.mem_append_right _ (List.mem_singleton.2 rfl), h⟩

/-- The references of a document wait at its beginning. -/
theorem waits_awaitAll (keys : List RefKey) (hnew : t.filled = []) :
    (∀ key, t.Waits key → (t.awaitAll keys).Waits key) ∧ ∀ key ∈ keys, (t.awaitAll keys).Waits key := by
  induction keys generalizing t with
  | nil => exact ⟨fun _ h => h, by simp⟩
  | cons k rest ih =>
    have hfilled : (t.await k).filled = [] := by
      rw [RefTable.await]
      split <;> exact hnew
    obtain ⟨hkeep, hrest⟩ := ih hfilled
    refine ⟨fun key h => hkeep key (h.await k), fun key hkey => ?_⟩
    rcases List.mem_cons.1 hkey with rfl | hkey
    · exact hkeep _ (waits_await (by rw [RefTable.label?, hnew]; rfl))
    · exact hrest key hkey

end RefTable

/-! ## Events -/

def Walk.Event.target? (e : Walk.Event) : Option String := e.attrs?.bind (·.get? "id")

def Moment.target? (m : Moment) : Option String := m.event.target?

/-- The references to an element, if it has an id, have been looked up. -/
def RefTable.resolve? (t : RefTable) (target : Option String) (label? : Selector → Option String) :
    RefTable :=
  target.elim t fun target => t.resolve target label?

namespace State
variable {d : Defaults} {s s' : State}

theorem refs_resolve (s : State) (attrs : Attrs) :
    (s.resolve attrs).refs = s.refs.resolve? (attrs.get? "id") (s.resolve attrs).scope.label? := by
  rw [scope_resolve, resolve, RefTable.resolve?]
  cases attrs.get? "id" <;> rfl

theorem refs_of_readDirective {tag : String} {source : Option String}
    {result : Except LabelError (Option Template.Instance)}
    (h : s.readDirective tag source = (result, s')) : s'.refs = s.refs := by
  cases h
  rfl

theorem refs_of_headingSeries {level : HeadingLevel} {source : Option String}
    {result : Except LabelError (Option SeriesId)} (h : s.headingSeries d level source = (result, s')) :
    s'.refs = s.refs := by
  rw [headingSeries] at h
  split at h <;> rename_i hread <;> have hrefs := refs_of_readDirective hread
  · cases h
    exact hrefs
  · split at h
    · cases h
      exact hrefs
    · rw [replace_eq] at h
      cases h
      exact hrefs
    · split at h
      · cases h
        exact hrefs
      · rw [start_eq] at h
        cases h
        exact hrefs

theorem refs_of_templateOfList {kind : ElementKind} {tag : String} {source : Option String}
    {result : Except LabelError (Option Template.Instance)}
    (h : s.templateOfList d kind tag source = (result, s')) : s'.refs = s.refs := by
  rw [templateOfList] at h
  split at h
  · rename_i hread
    cases h
    exact refs_of_readDirective hread
  · exact refs_of_readDirective h

end State

namespace Walk
open State
variable {d : Defaults} {s s' : State}

theorem get?_id_of_kept {attrs attrs' : Attrs} (h : attrs.Kept attrs') :
    attrs'.get? "id" = attrs.get? "id" :=
  h.other "id" (by decide) (by decide) fun d => by cases d <;> decide

theorem refs_resolve_of_kept {attrs attrs' : Attrs} {t : State} (hrefs : t.refs = s.refs)
    (h : attrs.Kept attrs') :
    (t.resolve attrs').refs = s.refs.resolve? (attrs.get? "id") (t.resolve attrs').scope.label? := by
  rw [refs_resolve, hrefs, get?_id_of_kept h]

/-- The references to an element have been looked up in the scope behind it, or the run has been stopped at it
and they are as they were. -/
def LooksUp (attrs : Attrs) (s s' : State) : Prop :=
  (∃ e, s'.failure = some e ∧ s'.refs = s.refs) ∨ s'.refs = s.refs.resolve? (attrs.get? "id") s'.scope.label?

theorem refs_enterHeading (level : HeadingLevel) (tag : String) (attrs : Attrs) (s : State) :
    LooksUp attrs s (enterHeading d level tag attrs s).state := by
  have hkept := kept_takeBoth tag attrs
  cases hsup : (takeBoth tag attrs).suppressed with
  | true =>
    rw [enterHeading_unlabelled hsup]
    exact Or.inr (refs_resolve_of_kept rfl hkept)
  | false =>
    rcases hseries : (closed level tag attrs s).headingSeries d level (takeBoth tag attrs).source
      with ⟨e | _ | id, s'⟩ <;> have hrefs := refs_of_headingSeries hseries
    · rw [enterHeading_failed hsup hseries]
      exact Or.inl ⟨e, rfl, hrefs⟩
    · rw [enterHeading_bare hsup hseries]
      exact Or.inr (refs_resolve_of_kept hrefs hkept)
    · rw [enterHeading_labelled hsup hseries]
      exact Or.inr (refs_resolve_of_kept (t := s'.increment id) hrefs hkept)

theorem refs_enterElement (tag : String) (attrs : Attrs) (s : State) :
    (enterElement tag attrs s).state.refs =
      s.refs.resolve? (attrs.get? "id") (enterElement tag attrs s).state.scope.label? := by
  have hkept := kept_enterElement tag attrs s
  rw [enterElement] at hkept ⊢
  exact refs_resolve_of_kept rfl hkept

theorem refs_enterList (kind : ElementKind) (tag : String) (attrs : Attrs) (s : State) :
    LooksUp attrs s (enterList d kind tag attrs s).2.2 := by
  have hkept : attrs.Kept (Directive.noLabel.discard tag (Directive.label.take tag attrs).attrs).1 :=
    ((Attrs.Kept.refl attrs).take .label tag).take .noLabel tag
  rw [enterList]
  dsimp only
  split <;> rename_i hread <;> have hrefs := refs_of_templateOfList hread
  · exact Or.inl ⟨_, rfl, hrefs⟩
  · rw [LooksUp, refs_enterElement, hrefs, get?_id_of_kept hkept]
    exact Or.inr rfl
  · rw [start_eq]
    exact Or.inr (refs_resolve_of_kept hrefs hkept)

theorem refs_enterItem (kind : ElementKind) (l : ListState) (attrs : Attrs) (s : State) :
    LooksUp attrs s (enterItem d kind l "li" attrs s).1.state := by
  have hkept := kept_takeBoth "li" attrs
  have hdraw : ∀ (l' : ListState) (s' : State), s'.refs = s.refs →
      (drawItem d l' (takeBoth "li" attrs).attrs s').1.state.refs = s.refs.resolve? (attrs.get? "id")
        (drawItem d l' (takeBoth "li" attrs).attrs s').1.state.scope.label? := by
    intro l' s' hrefs
    obtain ⟨hdressed, -⟩ := Roster.dressed_drawItem (s'.increment l'.series).scope.roster d.styled
      l'.series l'.container (takeBoth "li" attrs).attrs
    exact refs_resolve_of_kept (t := (s'.increment l'.series).addRules _) hrefs (hkept.trans hdressed.kept)
  cases hsup : (takeBoth "li" attrs).suppressed with
  | true =>
    rw [enterItem_unlabelled hsup]
    exact Or.inr (refs_resolve_of_kept rfl (hkept.addClass (Or.inr rfl)))
  | false =>
    rcases hread : (s.warn (takeBoth "li" attrs).warnings).readDirective "li" (takeBoth "li" attrs).source
      with ⟨e | _ | template, s'⟩ <;> have hrefs := refs_of_readDirective hread
    · rw [enterItem_failed hsup hread]
      exact Or.inl ⟨e, rfl, hrefs⟩
    · rw [enterItem_drawn hsup hread]
      exact Or.inr (hdraw l s' hrefs)
    · rw [enterItem_replaced hsup hread, replace_eq]
      exact Or.inr (hdraw _ _ hrefs)

/-- An event looks up the references to its element in the scope behind it, and no others, or it stops the
run. -/
theorem Event.refs_cases (e : Event) (s : State) :
    (∃ error, (e.next d s).failure = some error ∧ (e.next d s).refs = s.refs) ∨
      (e.next d s).refs = s.refs.resolve? e.target? (e.next d s).scope.label? := by
  cases e with
  | heading level tag attrs => exact refs_enterHeading level tag attrs s
  | list kind tag attrs => exact refs_enterList kind tag attrs s
  | item kind l attrs => exact refs_enterItem kind l attrs s
  | element tag attrs => exact Or.inr (refs_enterElement tag attrs s)
  | leaveItem l =>
    refine Or.inr (show (Walk.leaveItem l s).refs = s.refs from ?_)
    rw [Walk.leaveItem]
    split <;> rfl
  | leaveList l =>
    refine Or.inr (show (Walk.leaveList l s).refs = s.refs from ?_)
    rw [Walk.leaveList]
    split <;> rfl

theorem Event.refs_next (e : Event) (s : State) (hend : (e.next d s).failure = none) :
    (e.next d s).refs = s.refs.resolve? e.target? (e.next d s).scope.label? := by
  rcases e.refs_cases s with ⟨error, hfailure, -⟩ | hrefs
  · rw [hend] at hfailure
    cases hfailure
  · exact hrefs

end Walk

/-! ## Walks -/

/-- The label that a moment has for a reference. -/
def Moment.reference? (m : Moment) (key : RefKey) : Option String :=
  if m.target? = some key.target then m.after.scope.label? key.selector else none

/-- A reference gets its label at the element that it refers to, by the scope behind it. -/
theorem Moment.looked_up {m : Moment} {key : RefKey} {label : String}
    (hnew : m.before.refs.label? key = none) (hlabel : m.after.refs.label? key = some label) :
    m.target? = some key.target ∧ m.after.scope.label? key.selector = some label := by
  rcases m.event.refs_cases (d := m.defaults) m.before with ⟨_, -, hrefs⟩ | hrefs
  · rw [show m.after.refs = m.before.refs from hrefs, hnew] at hlabel
    cases hlabel
  · rw [show m.after.refs = m.before.refs.resolve? m.target? m.after.scope.label? from hrefs] at hlabel
    cases htarget : m.target? with
    | none =>
      rw [htarget] at hlabel
      exact absurd (hnew.symm.trans hlabel) nofun
    | some target =>
      rw [htarget] at hlabel
      have hfilled := (RefTable.label?_resolve ..).symm.trans hlabel
      rw [hnew, Option.none_or, Option.ite_none_right_eq_some, Option.ite_none_right_eq_some] at hfilled
      exact ⟨congrArg some hfilled.2.1.symm, hfilled.2.2⟩

/-- A moment gives a waiting reference its label if it has one, and leaves the others alone. -/
theorem Moment.label?_after {m : Moment} (hend : m.after.failure = none) (key : RefKey) :
    (∀ label, m.before.refs.label? key = some label → m.after.refs.label? key = some label) ∧
      (m.before.refs.Waits key → m.after.refs.label? key = m.reference? key ∧
        (m.reference? key = none → m.after.refs.Waits key)) := by
  have hrefs : m.after.refs = m.before.refs.resolve? m.target? m.after.scope.label? :=
    m.event.refs_next m.before hend
  rw [hrefs, reference?]
  cases m.target? with
  | none => exact ⟨fun _ h => h, fun h => ⟨h.unlabelled, fun _ => h⟩⟩
  | some target =>
    refine ⟨fun label h => ?_, fun h => ?_⟩
    · show (m.before.refs.resolve target m.after.scope.label?).label? key = some label
      rw [RefTable.label?_resolve, h, Option.some_or]
    · obtain ⟨hlabel, hwaits⟩ := h.resolve target m.after.scope.label?
      have hsame : (if some target = some key.target then m.after.scope.label? key.selector else none) =
          if key.target = target then m.after.scope.label? key.selector else none := by
        simp only [Option.some_inj, eq_comm]
      rw [hsame]
      exact ⟨hlabel, fun hnone => hwaits (hlabel.trans hnone)⟩

namespace Trace
variable {d : Defaults} {s t : State} {ms : List Moment} {key : RefKey}

theorem label?_of_labelled (h : Trace d s ms t) (hend : t.failure = none) {label : String}
    (hs : s.refs.label? key = some label) : t.refs.label? key = some label := by
  induction h with
  | nil => exact hs
  | @cons e s t ms hrun h ih =>
    have hnext := Moment.label?_after (m := ⟨d, s, e⟩) (h.running_of_end hend) key
    exact ih hend (hnext.1 label hs)

/-- A reference shows the label that it gets at the first moment that has one for it. -/
theorem label? (h : Trace d s ms t) (hend : t.failure = none) (hs : s.refs.Waits key) :
    t.refs.label? key = ms.findSome? (·.reference? key) := by
  induction h with
  | nil => exact hs.unlabelled
  | @cons e s t ms hrun h ih =>
    obtain ⟨hlabel, hwaits⟩ :=
      (Moment.label?_after (m := ⟨d, s, e⟩) (h.running_of_end hend) key).2 hs
    rw [List.findSome?_cons]
    cases hreference : Moment.reference? ⟨d, s, e⟩ key with
    | some label => exact h.label?_of_labelled hend (hlabel.trans hreference)
    | none => exact ih hend (hwaits hreference)

end Trace

/-! ## Ids -/

def Node.id? (n : Node) : Option String := n.attrs?.bind (·.get? "id")

/-- The ids of a document, in document order. -/
def Node.ids (n : Node) : List String := n.preorder.filterMap Node.id?

namespace Draft
open Walk State

mutual
def ids : Draft → List String
  | element _ attrs _ children => (attrs.get? "id").toList ++ idsAll children
  | text _ | split _ _ => []

def idsAll : List Draft → List String
  | [] => []
  | n :: rest => ids n ++ idsAll rest
end

mutual
theorem ids_markRefs (target : Option String) (n : Draft) : ids (markRefs target n) = ids n := by
  cases n with
  | text content =>
    cases target with
    | none => rfl
    | some target =>
      rw [markRefs, Option.elim_some, markText]
      split <;> rfl
  | split target pieces => rfl
  | element tag attrs label children => rw [markRefs, ids, ids, idsAll_markRefsAll]

theorem idsAll_markRefsAll (target : Option String) (ns : List Draft) :
    idsAll (markRefsAll target ns) = idsAll ns := by
  cases ns with
  | nil => rfl
  | cons n rest => rw [markRefsAll, idsAll, idsAll, ids_markRefs target n, idsAll_markRefsAll target rest]
end

mutual
theorem ids_ofNode (n : Node) : ids (ofNode n) = n.ids := by
  cases n with
  | text content => rfl
  | element tag attrs children =>
    rw [ofNode, ids, idsAll_ofNodes children, Node.ids, Node.preorder, List.filterMap_cons]
    have hid : (Node.element tag attrs children).id? = attrs.get? "id" := rfl
    rw [hid]
    cases attrs.get? "id" <;> rfl

theorem idsAll_ofNodes (ns : List Node) :
    idsAll (ofNodes ns) = (Node.preorderAll ns).filterMap Node.id? := by
  cases ns with
  | nil => rfl
  | cons n rest =>
    rw [ofNodes, idsAll, ids_ofNode n, idsAll_ofNodes rest, Node.preorderAll, List.filterMap_append]
    rfl
end

variable (d : Defaults)

theorem filterMap_target?_comesTo (s : State) (l : ListState) :
    (comesTo d s (.leaveItem l)).filterMap Moment.target? = [] ∧
      (comesTo d s (.leaveList l)).filterMap Moment.target? = [] := by
  rw [comesTo, comesTo]
  split <;> exact ⟨rfl, rfl⟩

theorem filterMap_target?_cons (s : State) (e : Event) (ms : List Moment) :
    (⟨d, s, e⟩ :: ms).filterMap Moment.target? = e.target?.toList ++ ms.filterMap Moment.target? := by
  rw [List.filterMap_cons]
  have htarget : Moment.target? ⟨d, s, e⟩ = e.target? := rfl
  rw [htarget]
  cases e.target? <;> rfl

/-- Each part of a walk comes to every element once at most. -/
theorem once_cases : WalkCases d (fun n s => ((moments d n s).filterMap Moment.target?).Sublist n.ids)
    (fun ns s => ((momentsAll d ns s).filterMap Moment.target?).Sublist (idsAll ns))
    fun kind ns l s => ((momentsItems d kind ns l s).filterMap Moment.target?).Sublist (idsAll ns) where
  stopped n s h := by
    rw [moments_stopped h]
    exact List.nil_sublist _
  leaf n s _ hn := by
    rw [moments_leaf hn]
    exact List.nil_sublist _
  heading level tag attrs label children s h hk := by
    rw [moments_heading h hk, filterMap_target?_cons, ids]
    exact (List.nil_sublist _).append_left _
  other tag attrs label children s h hk hchildren := by
    rw [moments_other h hk, filterMap_target?_cons, ids]
    exact hchildren.append_left _
  bareList kind tag attrs attrs' label children s s' h hk hlist he hchildren := by
    rw [moments_bareList h hk hlist he, filterMap_target?_cons, ids]
    exact hchildren.append_left _
  list kind tag attrs attrs' label children l s s' h hk hlist he hchildren := by
    rw [moments_list h hk hlist he, filterMap_target?_cons, ids]
    exact hchildren.append_left _
  nil s := by simp [momentsAll]
  cons n rest s hn hrest := by
    rw [momentsAll, List.filterMap_append, idsAll]
    exact hn.append hrest
  itemsStopped kind ns l s h := by
    rw [momentsItems_stopped h]
    exact List.nil_sublist _
  itemsNil kind l s _ := by
    rw [momentsItems, (filterMap_target?_comesTo d s l).2]
    exact List.nil_sublist _
  itemsLeaf kind n rest l s _ hn hrest := by
    rw [momentsItems_leaf hn, idsAll]
    exact hrest.trans (List.sublist_append_right _ _)
  item kind attrs label content rest l s h hcontent hrest := by
    rw [momentsItems_item h, filterMap_target?_cons, List.filterMap_append, List.filterMap_append,
      (filterMap_target?_comesTo d _ _).1, List.nil_append, idsAll, ids, List.append_assoc]
    exact (hcontent.append hrest).append_left _
  itemsOther kind tag attrs label content rest l s h hli hn hrest := by
    rw [momentsItems_other h hli, List.filterMap_append, idsAll]
    exact hn.append hrest

/-- A walk comes to every element once at most. -/
theorem targets_moments (n : Draft) (s : State) :
    ((moments d n s).filterMap Moment.target?).Sublist n.ids := (once_cases d).walk n s

end Draft

/-- Where only one moment is that of the element with an id, references to it show what that moment has. -/
theorem Moment.findSome?_of_unique {ms : List Moment} {m : Moment} {key : RefKey} (hm : m ∈ ms)
    (htarget : m.target? = some key.target) (hunique : (ms.filterMap Moment.target?).count key.target ≤ 1) :
    ms.findSome? (·.reference? key) = m.after.scope.label? key.selector := by
  obtain ⟨before, behind, rfl⟩ := List.append_of_mem hm
  rw [List.filterMap_append, List.filterMap_cons_some htarget, List.count_append, List.count_cons_self] at hunique
  have hnone : ∀ ms' : List Moment, (ms'.filterMap Moment.target?).count key.target = 0 →
      ms'.findSome? (·.reference? key) = none := by
    intro ms' hcount
    refine List.findSome?_eq_none_iff.2 fun m' hm' => if_neg fun heq => ?_
    exact List.count_eq_zero.1 hcount (List.mem_filterMap.2 ⟨m', hm', heq⟩)
  rw [List.findSome?_append, hnone before (by omega), Option.none_or, List.findSome?_cons,
    hnone behind (by omega), Moment.reference?, if_pos htarget]
  cases m.after.scope.label? key.selector <;> rfl

/-! ## Runs -/

namespace Labelling
open State
variable (l : Labelling) (c : Template.Context) (doc : Node)

/-- The references of a document: what the markers inside links to ids ask for. -/
def references : List RefKey := ((Draft.ofNode doc).markRefs none).refKeys

theorem targets_moments : ((l.moments c doc).filterMap Moment.target?).Sublist doc.ids := by
  rw [moments]
  split
  · exact List.nil_sublist _
  · rename_i d c' hread
    have htargets := Draft.targets_moments d ((Draft.ofNode doc).markRefs none)
      (begin c' ((Draft.ofNode doc).markRefs none))
    rwa [Draft.ids_markRefs, Draft.ids_ofNode] at htargets

variable {l c doc}

/-- A reference of a run that comes to its end shows the label that it gets at the first moment that has
one for it. -/
theorem label?_references (hend : (l.draft c (.ofNode doc)).state.failure = none) {key : RefKey}
    (hkey : key ∈ references doc) :
    (l.draft c (.ofNode doc)).state.refs.label? key =
      (l.moments c doc).findSome? (·.reference? key) := by
  rw [draft] at hend ⊢
  rw [moments]
  rcases hread : Defaults.ofSettings c l.settings with ⟨e | d, c'⟩ <;> rw [hread] at hend
  · cases hend
  · have hwaits := (RefTable.waits_awaitAll (t := {}) (references doc) rfl).2 key hkey
    exact (Draft.walk_trace d _ _).label? hend hwaits

end Labelling
end Rubric
