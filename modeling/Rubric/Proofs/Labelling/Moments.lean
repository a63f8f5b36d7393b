import Rubric.Proofs.Labelling.Frames
import Rubric.Proofs.Outline.Sections

/-!
# The moments of a walk

* `Walk.Event` : what a walk comes to: an element, or the end of an item or of a list;
* `Moment` : an event, and the state in which a walk comes to it;
* `Draft.moments`, `momentsAll`, `momentsItems` : the moments of a walk, in document order. There are
  none once the walk has been stopped;
* `Trace d s ms t` : the moments `ms` lead from the state `s` to the state `t`;
* `walk_trace`, `walkAll_trace`, `walkItems_trace` : those of a walk lead from its first state to its last;
* `Trace.preserves`, `history` : what every event preserves holds at all moments, also if it is about the
  moments so far;
* `Labelling.moments` : the moments of a run; `moments_sound`, `moments_fit` : at each of them the scope
  is sound, and the series of the list that the walk is in numbers items.
-/

namespace Rubric

namespace Walk

/-- What a walk comes to. -/
inductive Event where
  | heading (level : HeadingLevel) (tag : String) (attrs : Attrs)
  /-- A list, with a series or without one. -/
  | list (kind : ElementKind) (tag : String) (attrs : Attrs)
  /-- An item of a list with a series. -/
  | item (kind : ElementKind) (l : ListState) (attrs : Attrs)
  | element (tag : String) (attrs : Attrs)
  | leaveItem (l : ListState)
  | leaveList (l : ListState)

/-- The state behind an event. -/
def Event.next (d : Defaults) : Event → State → State
  | heading level tag attrs, s => (enterHeading d level tag attrs s).state
  | list kind tag attrs, s => (enterList d kind tag attrs s).2.2
  | item kind l attrs, s => (enterItem d kind l "li" attrs s).1.state
  | element tag attrs, s => (enterElement tag attrs s).state
  | leaveItem l, s => Walk.leaveItem l s
  | leaveList l, s => Walk.leaveList l s

def Event.attrs? : Event → Option Attrs
  | heading _ _ attrs | list _ _ attrs | item _ _ attrs | element _ attrs => some attrs
  | leaveItem _ | leaveList _ => none

end Walk

/-- An event of a walk with some settings, and the state in which the walk comes to it. -/
structure Moment where
  defaults : Defaults
  before : State
  event : Walk.Event

def Moment.after (m : Moment) : State := m.event.next m.defaults m.before

namespace Draft
open Walk

/-- An event, unless the walk has been stopped. -/
def comesTo (d : Defaults) (s : State) (e : Event) : List Moment := if s.isStopped then [] else [⟨d, s, e⟩]

mutual
/-- The moments of a walk over a node. -/
def moments (d : Defaults) : Draft → State → List Moment
  | element tag attrs _ children, s =>
    if s.isStopped then []
    else
      match ElementKind.ofTag? tag with
      | some (.heading level) => [⟨d, s, .heading level tag attrs⟩]
      | some kind =>
        ⟨d, s, .list kind tag attrs⟩ ::
          match enterList d kind tag attrs s with
          | (_, none, s) => momentsAll d children s
          | (_, some l, s) => momentsItems d kind children l s
      | none => ⟨d, s, .element tag attrs⟩ :: momentsAll d children (enterElement tag attrs s).state
  | _, _ => []

def momentsAll (d : Defaults) : List Draft → State → List Moment
  | [], _ => []
  | n :: rest, s => moments d n s ++ momentsAll d rest (walk d n s).2

/-- The moments of a walk over the children of a list, and its end. -/
def momentsItems (d : Defaults) (kind : ElementKind) : List Draft → ListState → State → List Moment
  | [], l, s => comesTo d s (.leaveList l)
  | element tag attrs label content :: rest, l, s =>
    if s.isStopped then []
    else if tag = "li" then
      let e := enterItem d kind l tag attrs s
      let after := (walkAll d content e.1.state).2
      ⟨d, s, .item kind l attrs⟩ :: (momentsAll d content e.1.state ++
        (comesTo d after (.leaveItem e.2) ++ momentsItems d kind rest e.2 (leaveItem e.2 after)))
    else
      moments d (element tag attrs label content) s ++
        momentsItems d kind rest l (walk d (element tag attrs label content) s).2
  | _ :: rest, l, s => momentsItems d kind rest l s
end

/-! ## The moments, case by case -/

section Cases
variable {d : Defaults} {kind : ElementKind} {tag : String} {attrs attrs' : Attrs}
  {label : Option String} {children rest : List Draft} {l : ListState} {s s' : State}

theorem comesTo_stopped (h : s.isStopped) (e : Event) : comesTo d s e = [] := by
  rw [comesTo, if_pos h]

theorem comesTo_running (h : ¬s.isStopped) (e : Event) : comesTo d s e = [⟨d, s, e⟩] := by
  rw [comesTo, if_neg h]

theorem mem_comesTo {e : Event} {m : Moment} (h : m ∈ comesTo d s e) : ¬s.isStopped ∧ m = ⟨d, s, e⟩ := by
  rw [comesTo] at h
  split at h
  · cases h
  · exact ⟨‹_›, List.mem_singleton.1 h⟩

theorem moments_leaf {n : Draft} (hn : n.Leaf) (s : State) : moments d n s = [] := by
  cases n with
  | text => rfl
  | split => rfl
  | element => exact (hn _ _ _ _ rfl).elim

theorem moments_stopped (h : s.isStopped) (n : Draft) : moments d n s = [] := by
  cases n with
  | element => exact if_pos h
  | text => rfl
  | split => rfl

theorem momentsAll_stopped (h : s.isStopped) (ns : List Draft) : momentsAll d ns s = [] := by
  induction ns with
  | nil => rw [momentsAll]
  | cons n rest ih => rw [momentsAll, moments_stopped h, walk_stopped h, ih, List.append_nil]

theorem moments_heading {level : HeadingLevel} (h : ¬s.isStopped)
    (hk : ElementKind.ofTag? tag = some (.heading level)) :
    moments d (element tag attrs label children) s = [⟨d, s, .heading level tag attrs⟩] := by
  refine (if_neg h).trans ?_
  rw [hk]

theorem moments_other (h : ¬s.isStopped) (hk : ElementKind.ofTag? tag = none) :
    moments d (element tag attrs label children) s =
      ⟨d, s, .element tag attrs⟩ :: momentsAll d children (enterElement tag attrs s).state := by
  refine (if_neg h).trans ?_
  rw [hk]

theorem moments_bareList (h : ¬s.isStopped) (hk : ElementKind.ofTag? tag = some kind)
    (hlist : kind.isList) (he : enterList d kind tag attrs s = (attrs', none, s')) :
    moments d (element tag attrs label children) s =
      ⟨d, s, .list kind tag attrs⟩ :: momentsAll d children s' := by
  refine (if_neg h).trans ?_
  rw [hk]
  cases kind with
  | heading => cases hlist
  | orderedList => simp only [he]
  | unorderedList => simp only [he]

theorem moments_list (h : ¬s.isStopped) (hk : ElementKind.ofTag? tag = some kind)
    (hlist : kind.isList) (he : enterList d kind tag attrs s = (attrs', some l, s')) :
    moments d (element tag attrs label children) s =
      ⟨d, s, .list kind tag attrs⟩ :: momentsItems d kind children l s' := by
  refine (if_neg h).trans ?_
  rw [hk]
  cases kind with
  | heading => cases hlist
  | orderedList => simp only [he]
  | unorderedList => simp only [he]

theorem momentsItems_stopped (h : s.isStopped) (ns : List Draft) : momentsItems d kind ns l s = [] := by
  induction ns with
  | nil => rw [momentsItems, comesTo_stopped h]
  | cons n rest ih =>
    cases n with
    | element => exact if_pos h
    | text => exact ih
    | split => exact ih

theorem momentsItems_leaf {n : Draft} (hn : n.Leaf) :
    momentsItems d kind (n :: rest) l s = momentsItems d kind rest l s := by
  cases n with
  | text => rfl
  | split => rfl
  | element => exact (hn _ _ _ _ rfl).elim

theorem momentsItems_item {content : List Draft} (h : ¬s.isStopped) :
    momentsItems d kind (element "li" attrs label content :: rest) l s =
      let e := enterItem d kind l "li" attrs s
      let after := (walkAll d content e.1.state).2
      ⟨d, s, .item kind l attrs⟩ :: (momentsAll d content e.1.state ++
        (comesTo d after (.leaveItem e.2) ++ momentsItems d kind rest e.2 (leaveItem e.2 after))) := by
  exact (if_neg h).trans (if_pos rfl)

theorem momentsItems_other {content : List Draft} (h : ¬s.isStopped) (htag : tag ≠ "li") :
    momentsItems d kind (element tag attrs label content :: rest) l s =
      moments d (element tag attrs label content) s ++
        momentsItems d kind rest l (walk d (element tag attrs label content) s).2 := by
  exact (if_neg h).trans (if_neg htag)

end Cases
end Draft

/-! ## From moment to moment -/

/-- The moments lead from one state to another, and the walk has not been stopped before the last. -/
inductive Trace (d : Defaults) : State → List Moment → State → Prop where
  | nil (s : State) : Trace d s [] s
  | cons {e : Walk.Event} {s t : State} {ms : List Moment} (hs : s.failure = none)
      (h : Trace d (e.next d s) ms t) : Trace d s (⟨d, s, e⟩ :: ms) t

namespace Trace
variable {d : Defaults} {s t u : State} {ms ms' : List Moment}

theorem append (h : Trace d s ms t) (h' : Trace d t ms' u) : Trace d s (ms ++ ms') u := by
  induction h with
  | nil s => exact h'
  | cons hs _ ih => exact .cons hs (ih h')

/-- What every event preserves holds at all moments. -/
theorem preserves {P : State → Prop} (h : Trace d s ms t) (hs : P s)
    (hP : ∀ m ∈ ms, m.before.failure = none → P m.before → P m.after) :
    (∀ m ∈ ms, P m.before ∧ P m.after) ∧ P t := by
  induction h with
  | nil s => exact ⟨by simp, hs⟩
  | @cons e s t ms hrun _ ih =>
    have hnext : P (e.next d s) := hP ⟨d, s, e⟩ (List.mem_cons_self ..) hrun hs
    obtain ⟨hrest, ht⟩ := ih hnext fun m hm => hP m (List.mem_cons_of_mem _ hm)
    refine ⟨fun m hm => ?_, ht⟩
    rcases List.mem_cons.1 hm with rfl | hm
    · exact ⟨hs, hnext⟩
    · exact hrest m hm

/-- What the moments so far and the state have in common, if every event keeps it so, they have in common in front
of each event, behind it, and at the end. -/
theorem history {P : List Moment → State → Prop} (h : Trace d s ms t) {past : List Moment} (hs : P past s)
    (hP : ∀ past, ∀ m ∈ ms, m.before.failure = none → P past m.before → P (past ++ [m]) m.after) :
    P (past ++ ms) t ∧
      ∀ pre m post, ms = pre ++ m :: post → P (past ++ pre) m.before ∧ P (past ++ pre ++ [m]) m.after := by
  induction h generalizing past with
  | nil s =>
    refine ⟨by rwa [List.append_nil], fun pre m post heq => ?_⟩
    simp at heq
  | @cons e s t ms hrun _ ih =>
    have hnext : P (past ++ [⟨d, s, e⟩]) (e.next d s) := hP past ⟨d, s, e⟩ (List.mem_cons_self ..) hrun hs
    obtain ⟨hend, hmoments⟩ := ih hnext fun past m hm => hP past m (List.mem_cons_of_mem _ hm)
    rw [List.append_assoc] at hend
    refine ⟨hend, fun pre m post heq => ?_⟩
    cases pre with
    | nil =>
      obtain ⟨rfl, -⟩ := List.cons.inj heq
      rw [List.append_nil]
      exact ⟨hs, hnext⟩
    | cons first pre =>
      obtain ⟨rfl, hrest⟩ := List.cons.inj heq
      simpa only [List.append_assoc, List.singleton_append] using hmoments pre m post hrest

theorem defaults_eq (h : Trace d s ms t) : ∀ m ∈ ms, m.defaults = d := by
  induction h with
  | nil s => simp
  | cons _ _ ih => exact List.forall_mem_cons.2 ⟨rfl, ih⟩

theorem running (h : Trace d s ms t) : ∀ m ∈ ms, m.before.failure = none := by
  induction h with
  | nil s => simp
  | cons hs _ ih => exact List.forall_mem_cons.2 ⟨hs, ih⟩

theorem running_of_end (h : Trace d s ms t) (hend : t.failure = none) : s.failure = none := by
  cases h with
  | nil => exact hend
  | cons hs _ => exact hs

theorem running_after (h : Trace d s ms t) (hend : t.failure = none) : ∀ m ∈ ms, m.after.failure = none := by
  induction h with
  | nil s => simp
  | cons _ h ih => exact List.forall_mem_cons.2 ⟨h.running_of_end hend, ih hend⟩

end Trace

namespace Draft
open Walk State
variable (d : Defaults)

theorem comesTo_trace {s : State} {e : Event} (h : s.isStopped → e.next d s = s) :
    Trace d s (comesTo d s e) (e.next d s) := by
  by_cases hs : s.isStopped
  · rw [comesTo_stopped hs, h hs]
    exact .nil s
  · rw [comesTo_running hs]
    exact .cons (not_isStopped_iff.1 hs) (.nil _)

theorem leaveItem_stopped {s : State} (h : s.isStopped) (l : ListState) : leaveItem l s = s := by
  rw [leaveItem, if_pos h]

theorem leaveList_stopped {s : State} (h : s.isStopped) (l : ListState) : leaveList l s = s := by
  rw [leaveList, if_pos h]

/-- The moments of each part of a walk lead from its first state to its last. Those of the children of a list
lead to the end of the list. -/
theorem trace_cases : WalkCases d (fun n s => Trace d s (moments d n s) (walk d n s).2)
    (fun ns s => Trace d s (momentsAll d ns s) (walkAll d ns s).2)
    fun kind ns l s => Trace d s (momentsItems d kind ns l s)
      (leaveList (walkItems d kind ns l s).2.1 (walkItems d kind ns l s).2.2) where
  stopped n s h := by
    rw [walk_stopped h, moments_stopped h]
    exact .nil s
  leaf n s _ hn := by
    rw [walk_leaf hn, moments_leaf hn]
    exact .nil s
  heading level tag attrs label children s h hk := by
    rw [walk_heading h hk, moments_heading h hk]
    exact .cons (not_isStopped_iff.1 h) (.nil _)
  other tag attrs label children s h hk hchildren := by
    rw [walk_other h hk, moments_other h hk]
    exact .cons (not_isStopped_iff.1 h) hchildren
  bareList kind tag attrs attrs' label children s s' h hk hlist he hchildren := by
    have hnext : Event.next d (.list kind tag attrs) s = s' := by rw [Event.next, he]
    rw [walk_bareList h hk hlist he, moments_bareList h hk hlist he]
    exact .cons (not_isStopped_iff.1 h) (hnext ▸ hchildren)
  list kind tag attrs attrs' label children l s s' h hk hlist he hchildren := by
    have hnext : Event.next d (.list kind tag attrs) s = s' := by rw [Event.next, he]
    rw [walk_list h hk hlist he, moments_list h hk hlist he]
    exact .cons (not_isStopped_iff.1 h) (hnext ▸ hchildren)
  nil s := .nil s
  cons n rest s hn hrest := by
    rw [walkAll_cons, momentsAll]
    exact hn.append hrest
  itemsStopped kind ns l s h := by
    rw [walkItems_stopped h, momentsItems_stopped h, leaveList_stopped h]
    exact .nil s
  itemsNil kind l s _ := comesTo_trace d (e := .leaveList l) (leaveList_stopped · l)
  itemsLeaf kind n rest l s _ hn hrest := by
    rw [walkItems_leaf hn, momentsItems_leaf hn]
    exact hrest
  item kind attrs label content rest l s h hcontent hrest := by
    rw [walkItems_item h, momentsItems_item h]
    exact .cons (not_isStopped_iff.1 h) (hcontent.append
      ((comesTo_trace d (e := .leaveItem _) (leaveItem_stopped · _)).append hrest))
  itemsOther kind tag attrs label content rest l s h hli hn hrest := by
    rw [walkItems_other h hli, momentsItems_other h hli]
    exact hn.append hrest

/-- The moments of a walk lead from its first state to its last. -/
theorem walk_trace (n : Draft) (s : State) : Trace d s (moments d n s) (walk d n s).2 :=
  (trace_cases d).walk n s

/-- The same for nodes in a row. -/
theorem walkAll_trace (ns : List Draft) (s : State) : Trace d s (momentsAll d ns s) (walkAll d ns s).2 :=
  (trace_cases d).walkAll ns s

/-- The same for the children of a list, to its end. -/
theorem walkItems_trace (kind : ElementKind) (ns : List Draft) (l : ListState) (s : State) :
    Trace d s (momentsItems d kind ns l s)
      (leaveList (walkItems d kind ns l s).2.1 (walkItems d kind ns l s).2.2) :=
  (trace_cases d).walkItems kind ns l s

end Draft

/-! ## What holds at all moments -/

namespace Walk
open State
variable {d : Defaults}

theorem Event.steps (e : Event) (s : State) : Steps d s (e.next d s) := by
  cases e with
  | heading level tag attrs => exact enterHeading_steps d level tag attrs s
  | list kind tag attrs => exact enterList_steps d kind tag attrs s
  | item kind l attrs => exact enterItem_steps d kind l "li" attrs s
  | element tag attrs => exact enterElement_steps d tag attrs s
  | leaveItem l => exact leaveItem_steps d l s
  | leaveList l => exact leaveList_steps d l s

/-- An event fits its element, and the list that the walk is in has been started. -/
def Event.Fits (r : Roster) : Event → Prop
  | heading level tag _ => ElementKind.ofTag? tag = some (.heading level)
  | list kind tag _ => ElementKind.ofTag? tag = some kind ∧ kind.isList
  | item kind l _ => kind.isList ∧ r.Lists l.series
  | element _ _ => True
  | leaveItem l | leaveList l => r.Lists l.series

theorem lists_enterList {kind : ElementKind} {tag : String} {attrs attrs' : Attrs} {l : ListState}
    {s s' : State} (hlist : kind.isList) (h : enterList d kind tag attrs s = (attrs', some l, s')) :
    s'.scope.roster.Lists l.series := by
  obtain ⟨rfl, template, hscope⟩ := scope_enterList_some h
  rw [hscope]
  exact ⟨_, by rw [Scope.view?_started, if_pos rfl], ElementKind.level?_of_isList hlist⟩

theorem lists_replace {kind : ElementKind} (hlist : kind.isList) (s : State) (old : SeriesId)
    (template : Template.Instance) (styled : Bool) :
    (s.replace old kind template styled).2.scope.roster.Lists (s.replace old kind template styled).1 := by
  rw [replace_eq]
  obtain ⟨gone, hsh, -⟩ := Scope.shrinks_replace (s.scope.create kind template
    ((s.scope.roster.get? old).bind Series.parent) styled).2 old s.scope.roster.series.size
  exact ⟨_, (hsh.view _).trans (Roster.view?_create_self ..), ElementKind.level?_of_isList hlist⟩

theorem lists_enterItem {kind : ElementKind} (hlist : kind.isList) {l : ListState} (tag : String)
    (attrs : Attrs) {s : State} (h : s.scope.roster.Lists l.series) :
    (enterItem d kind l tag attrs s).1.state.scope.roster.Lists (enterItem d kind l tag attrs s).2.series := by
  have hdraw : ∀ (l' : ListState) (attrs : Attrs) (s : State), s.scope.roster.Lists l'.series →
      (drawItem d l' attrs s).1.state.scope.roster.Lists (drawItem d l' attrs s).2.series :=
    fun l' attrs s h => (drawItem_steps d l' attrs s).grows.lists h
  cases hsup : (takeBoth tag attrs).suppressed with
  | true =>
    rw [enterItem_unlabelled hsup]
    simpa using h
  | false =>
    rcases hread : (s.warn (takeBoth tag attrs).warnings).readDirective tag (takeBoth tag attrs).source
      with ⟨e | template, s'⟩ <;>
      have hscope : s'.scope = s.scope := scope_of_readDirective (s := s.warn _) hread
    · rw [enterItem_failed hsup hread]
      exact hscope ▸ h
    · cases template with
      | none =>
        rw [enterItem_drawn hsup hread]
        exact hdraw l _ s' (hscope ▸ h)
      | some template =>
        rw [enterItem_replaced hsup hread]
        exact hdraw _ _ _ (lists_replace hlist s' l.series template d.styled)

end Walk

namespace Draft
open State Walk
variable (d : Defaults)

theorem fits_cases : WalkCases d (fun n s => ∀ m ∈ moments d n s, m.event.Fits m.before.scope.roster)
    (fun ns s => ∀ m ∈ momentsAll d ns s, m.event.Fits m.before.scope.roster)
    fun kind ns l s => kind.isList → s.scope.roster.Lists l.series →
      ∀ m ∈ momentsItems d kind ns l s, m.event.Fits m.before.scope.roster where
  stopped n s h := by simp [moments_stopped h]
  leaf n s _ hn := by simp [moments_leaf hn]
  heading level tag attrs label children s h hk := by
    rw [moments_heading h hk]
    exact List.forall_mem_singleton.2 hk
  other tag attrs label children s h hk hchildren := by
    rw [moments_other h hk]
    exact List.forall_mem_cons.2 ⟨trivial, hchildren⟩
  bareList kind tag attrs attrs' label children s s' h hk hlist he hchildren := by
    rw [moments_bareList h hk hlist he]
    exact List.forall_mem_cons.2 ⟨⟨hk, hlist⟩, hchildren⟩
  list kind tag attrs attrs' label children l s s' h hk hlist he hchildren := by
    rw [moments_list h hk hlist he]
    exact List.forall_mem_cons.2 ⟨⟨hk, hlist⟩, hchildren hlist (lists_enterList hlist he)⟩
  nil s := by simp [momentsAll]
  cons n rest s hn hrest := by
    rw [momentsAll]
    exact List.forall_mem_append.2 ⟨hn, hrest⟩
  itemsStopped kind ns l s h _ _ := by simp [momentsItems_stopped h]
  itemsNil kind l s h _ hl := by
    rw [momentsItems, comesTo_running h]
    exact List.forall_mem_singleton.2 hl
  itemsLeaf kind n rest l s _ hn hrest hlist hl := by
    rw [momentsItems_leaf hn]
    exact hrest hlist hl
  item kind attrs label content rest l s h hcontent hrest hlist hl := by
    rw [momentsItems_item h]
    have hitem := lists_enterItem (d := d) hlist "li" attrs hl
    have hafter := (walkAll_steps d content _).grows.lists hitem
    have hleave := (leaveItem_steps d (enterItem d kind l "li" attrs s).2 _).grows.lists hafter
    refine List.forall_mem_cons.2 ⟨⟨hlist, hl⟩, List.forall_mem_append.2 ⟨hcontent,
      List.forall_mem_append.2 ⟨fun m hm => ?_, hrest hlist hleave⟩⟩⟩
    rw [(mem_comesTo hm).2]
    exact hafter
  itemsOther kind tag attrs label content rest l s h hli hn hrest hlist hl := by
    rw [momentsItems_other h hli]
    have hgrows := (walk_steps d (element tag attrs label content) s).grows
    exact List.forall_mem_append.2 ⟨hn, hrest hlist (hgrows.lists hl)⟩

theorem fits_moments (n : Draft) (s : State) : ∀ m ∈ moments d n s, m.event.Fits m.before.scope.roster :=
  (fits_cases d).walk n s

end Draft

/-! ## Runs -/

namespace Labelling
open State Draft

/-- The moments of a run. There are none if its settings cannot be read. -/
def moments (l : Labelling) (c : Template.Context) (doc : Node) : List Moment :=
  match Defaults.ofSettings c l.settings with
  | (.error _, _) => []
  | (.ok d, c) =>
    let marked := (Draft.ofNode doc).markRefs none
    marked.moments d (begin c marked)

variable (l : Labelling) (c : Template.Context) (doc : Node)

/-- The moments of a run lead from the beginning of the document to the end of the run. -/
theorem moments_trace :
    l.moments c doc = [] ∨ ∃ d c', Trace d (begin c' ((Draft.ofNode doc).markRefs none))
      (l.moments c doc) (l.draft c (.ofNode doc)).state := by
  rw [moments, draft]
  rcases Defaults.ofSettings c l.settings with ⟨e | d, c'⟩
  · exact Or.inl rfl
  · exact Or.inr ⟨d, c', walk_trace d _ _⟩

/-- What holds at the beginning and what every event preserves holds at all moments of a run. -/
theorem moments_preserve {P : State → Prop}
    (hbegin : ∀ c', P (begin c' ((Draft.ofNode doc).markRefs none)))
    (hP : ∀ m ∈ l.moments c doc, m.before.failure = none → P m.before → P m.after) :
    ∀ m ∈ l.moments c doc, P m.before ∧ P m.after := by
  rcases l.moments_trace c doc with hnone | ⟨d, c', htrace⟩
  · simp [hnone]
  · exact (htrace.preserves (hbegin c') hP).1

/-- What the beginning and no moments have in common, and every event keeps so, each moment of a run and those
before it have in common. -/
theorem moments_history {P : List Moment → State → Prop}
    (hbegin : ∀ c', P [] (begin c' ((Draft.ofNode doc).markRefs none)))
    (hP : ∀ past, ∀ m ∈ l.moments c doc, m.before.failure = none → P past m.before → P (past ++ [m]) m.after)
    {past rest : List Moment} {m : Moment} (hm : l.moments c doc = past ++ m :: rest) :
    P past m.before ∧ P (past ++ [m]) m.after := by
  rcases l.moments_trace c doc with hnone | ⟨d, c', htrace⟩
  · rw [hnone] at hm
    simp at hm
  · exact (htrace.history (hbegin c') hP).2 past m rest hm

theorem moments_running : ∀ m ∈ l.moments c doc, m.before.failure = none := by
  rcases l.moments_trace c doc with hnone | ⟨d, c', htrace⟩
  · simp [hnone]
  · exact htrace.running

theorem moments_running_after (hend : (l.draft c (.ofNode doc)).state.failure = none) :
    ∀ m ∈ l.moments c doc, m.after.failure = none := by
  rcases l.moments_trace c doc with hnone | ⟨d, c', htrace⟩
  · simp [hnone]
  · exact htrace.running_after hend

theorem moments_fit : ∀ m ∈ l.moments c doc, m.event.Fits m.before.scope.roster := by
  rw [moments]
  split
  · simp
  · exact fits_moments _ _ _

theorem moments_sound : ∀ m ∈ l.moments c doc, m.before.scope.Sound ∧ m.after.scope.Sound :=
  l.moments_preserve c doc (P := fun s => s.scope.Sound) (fun c' => sound_begin c' _) fun m _ _ h => (m.event.steps m.before).sound h

end Labelling
end Rubric
