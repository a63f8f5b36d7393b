import Rubric.Proofs.Labelling.OwnLabels
import Rubric.Proofs.Labelling.Written

/-!
# The items of a list

* `Request.number`, `segment` : the number and the segment of an item, from what it and the items before it ask
  for;
* `Turn.view?_of_ne`, `Trace.view?_eq` : an event counts in the series in which it numbers its element, and in
  no other;
* `not_labelled_inside` : no element in a node is numbered in a list series that has been there before;
* `State.Counts` : a series has counted the items of a list so far;
* `ItemLabelled` : the label of an item after those before it;
* `ItemShown` : an item with its label in the document;
* `Labelling.items_counted` : so are the items of every list that a run labels, whatever is in them.
-/

namespace Rubric

namespace Request

/-- The number of an item: how many have been labelled since the last template, it and its own item included.
The latest request is the first. -/
def number : List Request → Nat
  | [] => 0
  | silent :: past => number past
  | next :: past => number past + 1
  | restart _ :: _ => 1

/-- The segment of an item: that of the latest template, or else that of the list. -/
def segment (own : Segment) (history : List Request) : Segment :=
  (history.findSome? source?).elim own Segment.ofSource

end Request

/-- For each item its attributes, with those of the items before it behind. -/
def Attrs.histories (past : List Attrs) : List Attrs → List (List Attrs)
  | [] => []
  | attrs :: rest => (attrs :: past) :: histories (attrs :: past) rest

/-! ## What an event leaves alone -/

namespace Scope
variable {s s' : Scope}

theorem Shrinks.has_iff {gone : List SeriesId} (h : Shrinks s s' gone) {id : SeriesId} :
    s'.roster.Has id ↔ s.roster.Has id := by
  rw [Roster.Has, Roster.Has, h.size]

end Scope

namespace Walk
open State Scope

namespace Turn
variable {s s' : Scope} {e : Event} {own : Option SeriesId}

/-- The series that do not number the element are as they were. -/
theorem view?_of_ne (h : Turn s e own s') {id : SeriesId} (hid : s.roster.Has id) (hne : own ≠ some id) :
    s'.roster.view? id = s.roster.view? id := by
  obtain ⟨gone, hsh⟩ := e.shrinks_lookup s
  have hopened : ∀ old {kind template styled},
      ((e.lookup s).opened old kind template styled).roster.view? id = s.roster.view? id := by
    intro old kind template styled
    rw [view?_opened, if_neg (Nat.ne_of_lt (hsh.has_iff.2 hid)), hsh.view]
  have hcounted : ∀ {t : Scope} {j : SeriesId}, some j ≠ some id →
      (t.increment j).roster.view? id = t.roster.view? id := fun hj =>
    Roster.view?_increment_of_ne fun h => hj (congrArg some h.symm)
  cases h with
  | close => exact hsh.view id
  | count => exact (hcounted hne).trans (hsh.view id)
  | @restart level tag attrs old template => exact (hcounted hne).trans (hopened (some old))
  | start template => exact (hcounted hne).trans (hopened none)
  | bareList | element | skip => rfl
  | list template styled => exact hopened none
  | countItem => exact hcounted hne
  | @restartItem kind l attrs template styled =>
    exact (hcounted hne).trans (hopened (some l.series))
  | leaveItem l =>
    obtain ⟨gone, hsh, -⟩ := shrinks_endBelow s l.series
    exact hsh.view id
  | leaveList l => exact (shrinks_remove s l.series).view id

/-- An element that is numbered in a list series that has been there before is an item of the list. -/
theorem item_of_lists {own : SeriesId} (h : Turn s e (some own) s') (hown : s.roster.Lists own) :
    ∃ kind l attrs, e = .item kind l attrs ∧ own = l.series := by
  obtain ⟨v, hv, -⟩ := id hown
  have hhas : own < s.roster.series.size := Roster.has_of_view? hv
  obtain ⟨gone, hsh⟩ := e.shrinks_lookup s
  have hsize := hsh.size
  cases h with
  | count hfind =>
    obtain ⟨-, hlevel⟩ := mem_sections.1 (mem_sections_of_findKind? hfind)
    have hview := hsh.view own
    rw [Event.lookup] at hview
    rw [level?_congr hview, hown.level?] at hlevel
    cases hlevel
  | restart => exact absurd (hsize ▸ hhas) (Nat.lt_irrefl _)
  | start => exact absurd (hsize ▸ hhas) (Nat.lt_irrefl _)
  | countItem kind l attrs => exact ⟨kind, l, attrs, rfl, rfl⟩
  | restartItem => exact absurd hhas (Nat.lt_irrefl _)

end Turn
end Walk

theorem Trace.view?_eq {d : Defaults} {s t : State} {ms : List Moment} (h : Trace d s ms t) {id : SeriesId}
    (hid : s.scope.roster.Has id) (hms : ∀ m ∈ ms, m.labelled? ≠ some id) :
    t.scope.roster.view? id = s.scope.roster.view? id := by
  induction h with
  | nil => rfl
  | @cons e s t ms hrun _ ih =>
    obtain ⟨hfirst, hrest⟩ := List.forall_mem_cons.1 hms
    have hnext := (Moment.turn ⟨d, s, e⟩ hrun).view?_of_ne hid hfirst
    exact (ih ((e.steps (d := d) s).grows.has hid) hrest).trans hnext

namespace Draft
open State Walk Scope

theorem itemLabelled?_ne {d : Defaults} {kind : ElementKind} {l : ListState} {attrs : Attrs} {s : State}
    {id : SeriesId} (hid : s.scope.roster.Lists id) (hne : id ≠ l.series) :
    itemLabelled? d kind l attrs s ≠ some id := by
  intro hown
  have hturn := turn_item (d := d) kind l attrs s
  rw [hown] at hturn
  obtain ⟨kind', l', attrs', hitem, hseries⟩ := hturn.item_of_lists hid
  cases hitem
  exact hne hseries

theorem ne_series_enterItem {d : Defaults} {kind : ElementKind} {l : ListState} {attrs : Attrs}
    {s : State} {id : SeriesId} (hid : s.scope.roster.Lists id) (hne : id ≠ l.series) :
    id ≠ (enterItem d kind l "li" attrs s).2.series := by
  rw [series_enterItem]
  cases hlabelled : itemLabelled? d kind l attrs s with
  | none => exact hne
  | some own =>
    rintro rfl
    exact itemLabelled?_ne hid hne hlabelled

/-- No element in a node is numbered in a list series that has been there before. Among the items of a list
that is only the series of the list. -/
theorem not_labelled_inside (d : Defaults) :
    WalkCases d
      (fun n s => ∀ m ∈ moments d n s, ∀ id, s.scope.roster.Lists id → m.labelled? ≠ some id)
      (fun ns s => ∀ m ∈ momentsAll d ns s, ∀ id, s.scope.roster.Lists id → m.labelled? ≠ some id)
      (fun kind ns l s => ∀ m ∈ momentsItems d kind ns l s, ∀ id, s.scope.roster.Lists id →
        id ≠ l.series → m.labelled? ≠ some id) where
  stopped n s h := by simp [moments_stopped h]
  leaf n s h hn := by simp [moments_leaf hn]
  heading level tag attrs label children s h hk := by
    rw [moments_heading h hk]
    refine List.forall_mem_singleton.2 fun id hid hown => ?_
    have hturn := turn_heading (d := d) level tag attrs s
    rw [show headingLabelled? d level tag attrs s = some id from hown] at hturn
    obtain ⟨kind, l, attrs, hitem, -⟩ := hturn.item_of_lists hid
    cases hitem
  other tag attrs label children s h hk hchildren := by
    rw [scope_enterElement] at hchildren
    rw [moments_other h hk]
    exact List.forall_mem_cons.2 ⟨fun id _ hown => (by cases hown), hchildren⟩
  bareList kind tag attrs attrs' label children s s' h hk hlist he hchildren := by
    rw [scope_enterList_none he] at hchildren
    rw [moments_bareList h hk hlist he]
    exact List.forall_mem_cons.2 ⟨fun id _ hown => (by cases hown), hchildren⟩
  list kind tag attrs attrs' label children l s s' h hk hlist he hchildren := by
    have hsteps := steps_of_enterList he
    rw [moments_list h hk hlist he]
    refine List.forall_mem_cons.2 ⟨fun id _ hown => (by cases hown), fun m hm id hid => ?_⟩
    apply hchildren m hm id (hsteps.grows.lists hid)
    obtain ⟨rfl, -⟩ := scope_enterList_some he
    obtain ⟨v, hv, -⟩ := hid
    exact Nat.ne_of_lt (Roster.has_of_view? hv)
  nil s := by simp [momentsAll]
  cons n rest s hn hrest := by
    rw [momentsAll]
    exact List.forall_mem_append.2
      ⟨hn, fun m hm id hid => hrest m hm id ((walk_steps d n s).grows.lists hid)⟩
  itemsStopped kind ns l s h := by simp [momentsItems_stopped h]
  itemsNil kind l s h := by
    rw [momentsItems, comesTo_running h]
    exact List.forall_mem_singleton.2 fun id _ _ hown => by cases hown
  itemsLeaf kind n rest l s h hn hrest := by
    rw [momentsItems_leaf hn]
    exact hrest
  item kind attrs label content rest l s h hcontent hrest := by
    have hitem := (enterItem_steps d kind l "li" attrs s).grows
    have hinside := hitem.trans (walkAll_steps d content _).grows
    have hleave := hinside.trans (leaveItem_steps d (enterItem d kind l "li" attrs s).2 _).grows
    rw [momentsItems_item h]
    refine List.forall_mem_cons.2 ⟨fun id hid hne => itemLabelled?_ne hid hne, List.forall_mem_append.2
      ⟨fun m hm id hid _ => hcontent m hm id (hitem.lists hid), List.forall_mem_append.2 ⟨?_, ?_⟩⟩⟩
    · intro m hm id _ _
      rw [(mem_comesTo hm).2]
      exact fun h => by cases h
    · exact fun m hm id hid hne => hrest m hm id (hleave.lists hid) (ne_series_enterItem hid hne)
  itemsOther kind tag attrs label content rest l s h hli hn hrest := by
    rw [momentsItems_other h hli]
    refine List.forall_mem_append.2 ⟨fun m hm id hid _ => hn m hm id hid, fun m hm id hid => ?_⟩
    exact hrest m hm id ((walk_steps d (element tag attrs label content) s).grows.lists hid)

/-- A list series is the same behind whatever is in an item, or between items. -/
theorem view?_walk (d : Defaults) (n : Draft) {s : State} {id : SeriesId} (hid : s.scope.roster.Lists id) :
    (walk d n s).2.scope.roster.view? id = s.scope.roster.view? id := by
  obtain ⟨v, hv, hlevel⟩ := hid
  exact (walk_trace d n s).view?_eq (Roster.has_of_view? hv) fun m hm =>
    (not_labelled_inside d).walk n s m hm id ⟨v, hv, hlevel⟩

theorem view?_walkAll (d : Defaults) (ns : List Draft) {s : State} {id : SeriesId}
    (hid : s.scope.roster.Lists id) :
    (walkAll d ns s).2.scope.roster.view? id = s.scope.roster.view? id := by
  obtain ⟨v, hv, hlevel⟩ := hid
  exact (walkAll_trace d ns s).view?_eq (Roster.has_of_view? hv) fun m hm =>
    (not_labelled_inside d).walkAll ns s m hm id ⟨v, hv, hlevel⟩

end Draft

/-! ## The items of one list -/

/-- A list series has counted items with these attributes, the latest first. -/
def State.Counts (s : State) (id : SeriesId) (own : Segment) (past : List Attrs) : Prop :=
  ∃ v, s.scope.roster.view? id = some v ∧ v.kind.level? = none ∧
    v.segment = Request.segment own (past.map Attrs.request) ∧
    v.count = Request.number (past.map Attrs.request)

namespace State.Counts
variable {s s' : State} {id : SeriesId} {own : Segment} {past : List Attrs}

theorem lists (h : s.Counts id own past) : s.scope.roster.Lists id := by
  obtain ⟨v, hv, hlevel, -⟩ := h
  exact ⟨v, hv, hlevel⟩

theorem of_view (h : s.Counts id own past) (hview : s'.scope.roster.view? id = s.scope.roster.view? id) :
    s'.Counts id own past := by
  obtain ⟨v, hv, hrest⟩ := h
  exact ⟨v, hview.trans hv, hrest⟩

/-- Neither what is in an item nor its end touches the series of the list. -/
theorem leaveItem {d : Defaults} {l : Walk.ListState} (h : s.Counts l.series own past) (content : List Draft)
    (hrun : (Draft.walkAll d content s).2.failure = none) :
    (Walk.leaveItem l (Draft.walkAll d content s).2).Counts l.series own past := by
  apply (h.of_view (Draft.view?_walkAll d content h.lists)).of_view
  obtain ⟨gone, hsh, -⟩ := Scope.shrinks_endBelow (Draft.walkAll d content s).2.scope l.series
  rw [Walk.leaveItem_of_running hrun]
  exact hsh.view _

end State.Counts

/-- An item of a list behind others, as it comes out. One that has no label asks for none, and its moment
leaves all series as they are. One with a label shows its number, by its segment and behind the label of the
series to which the series that numbers it belongs. -/
inductive ItemLabelled (ms : List Moment) (kind : ElementKind) (own : Segment) : List Attrs → Draft → Prop where
  | silent {attrs : Attrs} {past : List Attrs} {m : Moment} {l : Walk.ListState} (content : List Draft)
      (hr : attrs.request = .silent) (hm : m ∈ ms) (hevent : m.event = .item kind l attrs)
      (hscope : m.after.scope = m.before.scope) :
      ItemLabelled ms kind own (attrs :: past)
        (.element "li" (attrs.undirected.addClass Css.noLabelClass) none content)
  | counted {attrs : Attrs} {past : List Attrs} {m : Moment} {l : Walk.ListState} {id : SeriesId}
      (content : List Draft) (hr : attrs.request ≠ .silent) (hm : m ∈ ms)
      (hevent : m.event = .item kind l attrs) (hid : m.labelled? = some id) :
      ItemLabelled ms kind own (attrs :: past)
        (.element "li" attrs.undirected
          (some ((Request.segment own ((attrs :: past).map Attrs.request)).write
            (m.after.scope.roster.core (m.after.scope.roster.parent? id))
            (Request.number ((attrs :: past).map Attrs.request)))) content)

namespace Walk
open State
variable {d : Defaults} {kind : ElementKind} {l : ListState} {attrs : Attrs} {s : State} {own : Segment}
  {past : List Attrs}

theorem enterItem_silent (hr : attrs.request = .silent) (d : Defaults) (kind : ElementKind) (l : ListState)
    (s : State) :
    ∃ s', enterItem d kind l "li" attrs s = (⟨attrs.undirected.addClass Css.noLabelClass, none, s'⟩, l) ∧
      s'.scope = s.scope := by
  rw [enterItem_unlabelled (Attrs.suppressed_of_silent hr)]
  exact ⟨_, rfl, by simp⟩

/-- An item with a label is counted in the series of its list, or it starts the next one of the list. -/
theorem Counts.enterItem (hlist : kind.isList) (hc : s.Counts l.series own past)
    (hr : attrs.request ≠ .silent) (hend : (enterItem d kind l "li" attrs s).1.state.failure = none) :
    itemLabelled? d kind l attrs s = some (enterItem d kind l "li" attrs s).2.series ∧
      (enterItem d kind l "li" attrs s).1.state.Counts (enterItem d kind l "li" attrs s).2.series own
        (attrs :: past) := by
  rcases hreq : attrs.request with _ | _ | source
  · obtain ⟨hsup, hsource⟩ := Attrs.source_of_next hreq
    have hread : (s.warn (takeBoth "li" attrs).warnings).readDirective "li" (takeBoth "li" attrs).source =
        (.ok none, s.warn (takeBoth "li" attrs).warnings) := by rw [hsource, readDirective_none]
    obtain ⟨v, hv, hlevel, hsegment, hcount⟩ := hc
    refine ⟨by rw [itemLabelled?, hsup, if_neg (by simp), hread], { v with count := v.count + 1 }, ?_, hlevel,
      ?_, ?_⟩
    · rw [enterItem_drawn hsup hread, scope_drawItem, series_drawItem]
      show (s.scope.roster.increment l.series).view? l.series = _
      rw [Roster.view?_increment, hv, Option.map_some, if_pos rfl]
    · rw [List.map_cons, hreq]
      exact hsegment
    · rw [List.map_cons, hreq]
      exact congrArg (· + 1) hcount
  · exact absurd hreq hr
  · obtain ⟨t, n, ht, hnew, hscope⟩ := opened_enterItem hreq hend
    have hseries := series_of_labelled hnew
    rw [hseries]
    refine ⟨hnew, _, by rw [hscope, Scope.view?_opened_first], ElementKind.level?_of_isList hlist, ?_, ?_⟩
    · rw [List.map_cons, hreq]
      show t.segment = Segment.ofSource source
      rw [Segment.ofSource, ht]
    · rw [List.map_cons, hreq]
      rfl

theorem attrs_enterItem (hd : d.styled = false) (hr : attrs.request ≠ .silent) :
    (enterItem d kind l "li" attrs s).1.attrs = attrs.undirected := by
  have hsup : (takeBoth "li" attrs).suppressed = false := by
    rcases hreq : attrs.request with _ | _ | source
    · exact (Attrs.source_of_next hreq).1
    · exact absurd hreq hr
    · exact (Attrs.source_of_restart hreq).1
  rcases hread : (s.warn (takeBoth "li" attrs).warnings).readDirective "li" (takeBoth "li" attrs).source
    with ⟨e | _ | template, s'⟩
  · rw [enterItem_failed hsup hread]
    rfl
  · rw [enterItem_drawn hsup hread]
    exact (drawItem_text hd l _ s').1
  · rw [enterItem_replaced hsup hread]
    exact (drawItem_text hd _ _ _).1

/-- An item is labelled by what it and those before it ask for. -/
theorem item_labelled (hd : d.styled = false) (hlist : kind.isList) (hs : s.scope.Sound)
    (hc : s.Counts l.series own past) {ms : List Moment} (hm : ⟨d, s, .item kind l attrs⟩ ∈ ms)
    (hend : (enterItem d kind l "li" attrs s).1.state.failure = none) (content : List Draft) :
    ItemLabelled ms kind own (attrs :: past)
        (.element "li" (enterItem d kind l "li" attrs s).1.attrs (enterItem d kind l "li" attrs s).1.label
          content) ∧
      (enterItem d kind l "li" attrs s).1.state.Counts (enterItem d kind l "li" attrs s).2.series own
        (attrs :: past) := by
  by_cases hr : attrs.request = .silent
  · obtain ⟨s', henter, hscope⟩ := enterItem_silent hr d kind l s
    have hafter : (Moment.after ⟨d, s, .item kind l attrs⟩).scope = s.scope := by
      show (enterItem d kind l "li" attrs s).1.state.scope = s.scope
      rw [henter]
      exact hscope
    rw [henter]
    refine ⟨.silent content hr hm rfl hafter, ?_⟩
    obtain ⟨v, hv, hlevel, hsegment, hcount⟩ := hc
    refine ⟨v, by rw [hscope]; exact hv, hlevel, ?_, ?_⟩
    · rw [List.map_cons, hr]
      exact hsegment
    · rw [List.map_cons, hr]
      exact hcount
  · obtain ⟨hown, hcounts⟩ := Counts.enterItem hlist hc hr hend
    obtain ⟨v, hv, -, hsegment, hcount⟩ := id hcounts
    have hsound := (enterItem_steps d kind l "li" attrs s).sound hs
    have hparent : (enterItem d kind l "li" attrs s).1.state.scope.roster.parent?
        (enterItem d kind l "li" attrs s).2.series = v.parent := by
      rw [Roster.parent?_eq, hv]
      rfl
    have hlabel := label_enterItem hd kind l attrs s
    rw [hown, Option.map_some, Roster.text_write hv (hsound.older _ v · hv), hsegment, hcount, ← hparent]
      at hlabel
    have hafter : Moment.after ⟨d, s, .item kind l attrs⟩ = (enterItem d kind l "li" attrs s).1.state := rfl
    rw [attrs_enterItem hd hr, hlabel]
    refine ⟨?_, hcounts⟩
    rw [← hafter]
    exact .counted content hr hm rfl hown

end Walk

namespace Draft
open State Walk

def itemAttrs? : Draft → Option Attrs
  | element tag attrs _ _ => if tag = "li" then some attrs else none
  | text _ | split _ _ => none

theorem itemAttrs?_leaf {n : Draft} (hn : n.Leaf) : n.itemAttrs? = none := by
  cases n with
  | text => rfl
  | split => rfl
  | element => exact (hn _ _ _ _ rfl).elim

theorem itemAttrs?_li (attrs : Attrs) (label : Option String) (content : List Draft) :
    (element "li" attrs label content).itemAttrs? = some attrs := by
  rw [itemAttrs?, if_pos rfl]

theorem itemAttrs?_other {tag : String} (hli : tag ≠ "li") (attrs : Attrs) (label : Option String)
    (content : List Draft) : (element tag attrs label content).itemAttrs? = none := by
  rw [itemAttrs?, if_neg hli]

theorem itemAttrs?_walk {d : Defaults} {tag : String} (hli : tag ≠ "li") (attrs : Attrs)
    (label : Option String) (content : List Draft) (s : State) :
    (walk d (element tag attrs label content) s).1.itemAttrs? = none := by
  obtain ⟨attrs', label', content', heq⟩ : ∃ attrs' label' content',
      (walk d (element tag attrs label content) s).1 = element tag attrs' label' content' := by
    by_cases hs : s.isStopped
    · rw [walk_stopped hs]
      exact ⟨_, _, _, rfl⟩
    cases hk : ElementKind.ofTag? tag with
    | none =>
      rw [walk_other hs hk]
      exact ⟨_, _, _, rfl⟩
    | some kind =>
      by_cases hlist : kind.isList
      · rcases he : enterList d kind tag attrs s with ⟨attrs', _ | l, s'⟩
        · rw [walk_bareList hs hk hlist he]
          exact ⟨_, _, _, rfl⟩
        · rw [walk_list hs hk hlist he]
          exact ⟨_, _, _, rfl⟩
      · obtain ⟨level, rfl⟩ := ElementKind.exists_heading hlist
        rw [walk_heading hs hk]
        exact ⟨_, _, _, rfl⟩
  rw [heq, itemAttrs?_other hli]

/-- The items of a list after others: each is labelled by what it and those before it ask for. -/
theorem walkItems_labelled {d : Defaults} (hd : d.styled = false) {kind : ElementKind} (hlist : kind.isList)
    {ms : List Moment} {own : Segment} (ns : List Draft) {l : ListState} {s : State} {past : List Attrs}
    (hs : s.scope.Sound) (hc : s.Counts l.series own past) (hms : momentsItems d kind ns l s ⊆ ms)
    (hend : (walkItems d kind ns l s).2.2.failure = none) :
    List.Forall₂ (ItemLabelled ms kind own) (Attrs.histories past (ns.filterMap itemAttrs?))
      ((walkItems d kind ns l s).1.filter fun n => n.itemAttrs?.isSome) := by
  induction ns generalizing l s past with
  | nil =>
    rw [walkItems_nil]
    exact .nil
  | cons n rest ih =>
    have hrun : ¬s.isStopped := not_isStopped_iff.2 (running_of_walkItems d hend)
    by_cases hleaf : n.Leaf
    · rw [momentsItems_leaf hleaf] at hms
      rw [walkItems_leaf hleaf] at hend ⊢
      rw [List.filterMap_cons_none (itemAttrs?_leaf hleaf),
        List.filter_cons_of_neg (by simp [itemAttrs?_leaf hleaf])]
      exact ih hs hc hms hend
    obtain ⟨tag, attrs, label, content, rfl⟩ : ∃ tag attrs label content,
        n = element tag attrs label content := by
      simpa [Leaf] using hleaf
    by_cases hli : tag = "li"
    · subst hli
      rw [momentsItems_item hrun, List.cons_subset] at hms
      rw [walkItems_item hrun] at hend ⊢
      dsimp only at hend ⊢
      have hm := hms.1
      have hafter := (failure_leaveItem _ _).symm.trans (running_of_walkItems d hend)
      have hentered := running_of_walkAll d hafter
      have hsteps := enterItem_steps d kind l "li" attrs s
      have hcontent := walkAll_steps d content (enterItem d kind l "li" attrs s).1.state
      have hleaving := leaveItem_steps d (enterItem d kind l "li" attrs s).2
        (walkAll d content (enterItem d kind l "li" attrs s).1.state).2
      have hrest : momentsItems d kind rest (enterItem d kind l "li" attrs s).2
          (leaveItem (enterItem d kind l "li" attrs s).2
            (walkAll d content (enterItem d kind l "li" attrs s).1.state).2) ⊆ ms := fun m hm' =>
        hms.2 (List.mem_append_right _ (List.mem_append_right _ hm'))
      rw [List.filterMap_cons_some (itemAttrs?_li attrs label content), Attrs.histories,
        List.filter_cons_of_pos (by simp [itemAttrs?_li])]
      obtain ⟨hfirst, hcounts⟩ := item_labelled hd hlist hs hc hm hentered
        (walkAll d content (enterItem d kind l "li" attrs s).1.state).1
      exact .cons hfirst (ih ((hsteps.trans (hcontent.trans hleaving)).sound hs)
        (Counts.leaveItem hcounts content hafter) hrest hend)
    · rw [momentsItems_other hrun hli, List.append_subset] at hms
      rw [walkItems_other hrun hli] at hend ⊢
      rw [List.filterMap_cons_none (itemAttrs?_other hli attrs label content),
        List.filter_cons_of_neg (by simp [itemAttrs?_walk hli])]
      have hsteps := walk_steps d (element tag attrs label content) s
      exact ih (hsteps.sound hs) (hc.of_view (view?_walk d _ hc.lists)) hms.2 hend

end Draft

/-! ## The items of a document -/

/-- An item of a draft and the one of the document: the text of its label is in one element in front of what is in
it, and an item without a label has no such element. -/
inductive ItemShown (typeset : Draft.Typesetting) (table : RefTable) : Draft → Node → Prop where
  | labelled (attrs : Attrs) (label : String) (content : List Draft) :
      ItemShown typeset table (.element "li" attrs (some label) content)
        (.element "li" attrs (.element "span" [("class", "la-label")] (typeset label) ::
          Draft.toNodesAll typeset table content))
  | bare (attrs : Attrs) (content : List Draft) :
      ItemShown typeset table (.element "li" attrs none content)
        (.element "li" attrs (Draft.toNodesAll typeset table content))

def Node.isItem (n : Node) : Bool := n.tag? == some "li"

namespace Draft
open Node

theorem filter_isItem_label (typeset : Typesetting) (label : Option String) :
    ((label.map (labelSpan typeset)).toList).filter Node.isItem = [] := by
  cases label <;> rfl

theorem filter_isItem_leaf (typeset : Typesetting) (table : RefTable) {n : Draft} (hn : n.Leaf) :
    (toNodes typeset table n).filter Node.isItem = [] := by
  cases n with
  | text content => rfl
  | split target pieces =>
    refine List.filter_eq_nil_iff.2 fun m hm => ?_
    obtain ⟨p, -, rfl⟩ := List.mem_map.1 hm
    cases p <;> simp [pieceNode, refSpan, Node.isItem, Node.tag?]
  | element => exact (hn _ _ _ _ rfl).elim

/-- The items among the nodes of a draft are those of the draft. -/
theorem itemShown_toNodesAll (typeset : Typesetting) (table : RefTable) (ns : List Draft) :
    List.Forall₂ (ItemShown typeset table) (ns.filter fun n => n.itemAttrs?.isSome)
      ((toNodesAll typeset table ns).filter Node.isItem) := by
  induction ns with
  | nil => exact .nil
  | cons n rest ih =>
    rw [toNodesAll, List.filter_append]
    cases n with
    | text content => exact ih
    | split target pieces =>
      rw [filter_isItem_leaf typeset table (leaf_split target pieces)]
      exact ih
    | element tag attrs label content =>
      by_cases hli : tag = "li"
      · subst hli
        rw [List.filter_cons_of_pos (by simp [itemAttrs?_li])]
        cases label with
        | none => exact .cons (.bare attrs content) ih
        | some label => exact .cons (.labelled attrs label content) ih
      · have hnot : (toNodes typeset table (element tag attrs label content)).filter Node.isItem = [] := by
          simp [toNodes, Node.isItem, Node.tag?, hli]
        rw [List.filter_cons_of_neg (by simp [itemAttrs?_other hli]), hnot]
        exact ih

end Draft

/-! ## The lists of a run -/

open Walk State

/-- A list with a series, at the beginning and at the end of its items. -/
theorem ListVisit.exists_items {v : ListVisit} {own : Series} (hown : v.series? = some own)
    (hrun : v.before.failure = none) (hkind : ElementKind.ofTag? v.tag = some v.kind) (hlist : v.kind.isList) :
    ∃ attrs l s, enterList v.defaults v.kind v.tag v.attrs v.before = (attrs, some l, s) ∧
      s.scope.roster.view? l.series = some own ∧
      v.element.walk v.defaults v.before =
        (.element v.tag ((Draft.walkItems v.defaults v.kind v.children l s).2.1.classes.foldl Attrs.addClass attrs)
          v.label (Draft.walkItems v.defaults v.kind v.children l s).1,
          leaveList (Draft.walkItems v.defaults v.kind v.children l s).2.1
            (Draft.walkItems v.defaults v.kind v.children l s).2.2) := by
  rcases he : enterList v.defaults v.kind v.tag v.attrs v.before with ⟨attrs, _ | l, s⟩ <;>
    rw [series?, entered, he] at hown
  · cases hown
  · exact ⟨attrs, l, s, rfl, hown, Draft.walk_list (not_isStopped_iff.2 hrun) hkind hlist he⟩

/-- The series of a list has counted nothing when the list begins. -/
theorem counts_enterList {d : Defaults} {kind : ElementKind} {tag : String} {attrs attrs' : Attrs}
    {l : ListState} {s s' : State} {own : Series} (hlist : kind.isList)
    (he : enterList d kind tag attrs s = (attrs', some l, s'))
    (hview : s'.scope.roster.view? l.series = some own) : s'.Counts l.series own.segment [] := by
  obtain ⟨rfl, template, hscope⟩ := scope_enterList_some he
  rw [hscope, Scope.view?_started, if_pos rfl] at hview
  cases hview
  exact ⟨_, by rw [hscope, Scope.view?_started, if_pos rfl], ElementKind.level?_of_isList hlist, rfl, rfl⟩

namespace Labelling
variable {l : Labelling} {c : Template.Context} {doc : Node}

/-- In a run with text labels that succeeds, the items of every list with a series are labelled by what they
ask for, whatever is in them and between them: an item that asks for no label has none and is not counted, and
every other one has the segment of the latest template that an item has asked for, or else that of the list,
and the number of items that have been labelled since. The lists of the labelled draft are the results of the
visits, and so are those of the document, whose items have the text of their labels in front. -/
theorem items_counted {report : LabelReport} (h : (l.apply c doc).result = .ok report)
    (hmode : l.settings.mode = .text) :
    let table := (l.draft c (.ofNode doc)).state.refs
    (l.listVisits c doc).map ListVisit.result = (l.draft c (.ofNode doc)).draft.lists ∧
      ((∀ s, Node.listsAll (l.typeset s) = []) → (l.apply c doc).document.lists =
        (l.listVisits c doc).map fun v => v.result.toNode l.typeset table) ∧
      ∀ v ∈ l.listVisits c doc, ∀ own, v.series? = some own →
        ∃ attrs items shown, v.result = .element v.tag attrs v.label items ∧
          List.Forall₂ (ItemLabelled (l.moments c doc) v.kind own.segment)
            (Attrs.histories [] (v.children.filterMap Draft.itemAttrs?))
            (items.filter fun n => n.itemAttrs?.isSome) ∧
          v.result.toNode l.typeset table = .element v.tag attrs shown ∧
          List.Forall₂ (ItemShown l.typeset table) (items.filter fun n => n.itemAttrs?.isSome)
            (shown.filter Node.isItem) := by
  intro table
  have hfinal := running_of_result h
  have hresults := l.results_listVisits c doc hfinal
  refine ⟨hresults, fun hplain => ?_, fun v hv own hown => ?_⟩
  · rw [apply, Draft.lists_toNode hplain, ← hresults, List.map_map]
    rfl
  obtain ⟨d, c', hread, hwithin⟩ := l.listVisits_within c doc v hv
  have hstyled : v.defaults.styled = false := by
    rw [hwithin.defaults, styled_ofSettings hread, hmode]
    rfl
  obtain ⟨attrs, items, s, he, hview, hwalk⟩ :=
    ListVisit.exists_items hown hwithin.running hwithin.kind hwithin.list
  have hsteps := enterList_steps v.defaults v.kind v.tag v.attrs v.before
  rw [he] at hsteps
  have hend := hwithin.running_after hfinal
  rw [ListVisit.after, hwalk, failure_leaveList] at hend
  have hmoments : Draft.momentsItems v.defaults v.kind v.children items s ⊆ l.moments c doc := by
    have hall := hwithin.moments_subset
    rw [ListVisit.moments, ListVisit.element,
      Draft.moments_list (not_isStopped_iff.2 hwithin.running) hwithin.kind hwithin.list he] at hall
    exact (List.cons_subset.1 hall).2
  refine ⟨_, _, _, by rw [ListVisit.result, hwalk], ?_, by rw [ListVisit.result, hwalk, Draft.toNode_element], ?_⟩
  · exact Draft.walkItems_labelled hstyled hwithin.list v.children
      (hsteps.sound (hwithin.sound (sound_begin c' _))) (counts_enterList hwithin.list he hview) hmoments hend
  · rw [List.filter_append, Draft.filter_isItem_label, List.nil_append]
    exact Draft.itemShown_toNodesAll l.typeset table _

/-- A section in an item, an item without a label and one with a template of its own: the items with a label have
the numbers one, one and two. -/
theorem items_counted_section :
    let l : Labelling := { settings := { headingLabels := some "1", orderedLabels := some "1." } }
    let doc : Node := .root [.element "ol" [] [.element "li" [] [.element "h1" [] []],
      .element "li" [("-no-label", "")] [], .element "li" [("-label", "a)")] [], .element "li" [] []]]
    ∃ v ∈ l.listVisits {} doc, ∃ own items, v.series? = some own ∧
      (Attrs.histories [] (v.children.filterMap Draft.itemAttrs?)).map
        (fun history => Request.number (history.map Attrs.request)) = [1, 1, 1, 2] ∧
      List.Forall₂ (ItemLabelled (l.moments {} doc) v.kind own.segment)
        (Attrs.histories [] (v.children.filterMap Draft.itemAttrs?)) items := by
  intro l doc
  have hok : (l.apply {} doc).result.toOption.isSome = true := by decide +kernel
  have hlist : ∃ v ∈ l.listVisits {} doc, v.series?.isSome ∧
      (Attrs.histories [] (v.children.filterMap Draft.itemAttrs?)).map
        (fun history => Request.number (history.map Attrs.request)) = [1, 1, 1, 2] := by decide +kernel
  obtain ⟨v, hv, hsome, hnumbers⟩ := hlist
  obtain ⟨own, hown⟩ := Option.isSome_iff_exists.1 hsome
  cases hresult : (l.apply {} doc).result with
  | error e =>
    rw [hresult] at hok
    cases hok
  | ok report =>
    obtain ⟨-, -, hitems⟩ := items_counted hresult rfl
    obtain ⟨attrs, items, shown, -, hlabelled, -⟩ := hitems v hv own hown
    exact ⟨v, hv, own, _, hown, hnumbers, hlabelled⟩

end Labelling
end Rubric
