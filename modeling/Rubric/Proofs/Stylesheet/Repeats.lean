import Rubric.Proofs.Stylesheet.Requested

/-!
# A document that is one list

* `Node.listLabels` : the labels that the directives of a list ask for;
* `Walk.enterList_bare`, `enterList_follows` : a list at the beginning of a document;
* `Draft.walk_list_text`, `walk_list_counted` : a walk over the list in either mode;
* `Labelling.labels_repeated` : counters show what the text says, apart from labels that repeat the
  template of the first one. They all have the number one.
-/

namespace Rubric

/-! ## What a list asks for -/

def Request.Readable : Request → Prop
  | .restart source => (Template.parse source).isOk
  | _ => True

instance (r : Request) : Decidable r.Readable := by
  cases r <;> unfold Request.Readable <;> infer_instance

/-- The default template of lists of a kind. -/
def Settings.listLabels (settings : Settings) : ElementKind → Option String
  | .orderedList => settings.orderedLabels
  | .unorderedList => settings.unorderedLabels
  | .heading _ => none

/-- The labels of a list whose template has a source, or of one without a template. -/
def ListLabel.ofList (source : Option String) (requests : List Request) : List (Option ListLabel) :=
  source.elim (requests.map fun _ => none) fun source => (start source).labels requests

/-- The labels that the items of a list ask for. -/
def Settings.labels (settings : Settings) (kind : ElementKind) (tag : String) (attrs : Attrs)
    (children : List Node) : List (Option ListLabel) :=
  ListLabel.ofList ((Directive.label.take tag attrs).value.or (settings.listLabels kind))
    ((children.filterMap Node.attrs?).map Attrs.request)

/-- The numbers that the counters show look like the others just if one does where it stands for another
number. -/
theorem ListLabel.shown_displayed_iff (labels : List (Option ListLabel)) :
    labels.map (Option.map fun l => (Segment.ofSource l.source).shown l.displayed) =
        labels.map (Option.map fun l => (Segment.ofSource l.source).shown l.number) ↔
      ∀ l ∈ labels.reduceOption, l.Repeats →
        (Segment.ofSource l.source).shown 1 = (Segment.ofSource l.source).shown l.number := by
  rw [List.map_inj_left]
  constructor
  · intro h l hl hrepeats
    have hsame := h (some l) (List.reduceOption_mem_iff.1 hl)
    rw [Option.map_some, Option.map_some, Option.some.injEq, displayed, if_pos hrepeats] at hsame
    exact hsame
  · intro h o ho
    cases o with
    | none => rfl
    | some l =>
      refine congrArg some ?_
      simp only [displayed]
      split
      · rename_i hrepeats
        exact h l (List.reduceOption_mem_iff.2 ho) hrepeats
      · rfl

theorem exists_of_isOk {source : String} (h : (Template.parse source).isOk = true) :
    ∃ t, Template.parse source = .ok t := by
  cases hparse : Template.parse source with
  | ok t => exact ⟨t, rfl⟩
  | error e =>
    rw [hparse] at h
    cases h

theorem Request.Readable.parse {r : Request} (h : r.Readable) {source : String}
    (hr : r = .restart source) : ∃ t, Template.parse source = .ok t := by
  rw [hr] at h
  exact exists_of_isOk h

/-! ## Attributes -/

namespace Attrs

@[simp] theorem classes_undirected (attrs : Attrs) : attrs.undirected.classes = attrs.classes := by
  simp [undirected, Walk.takeBoth]

@[simp] theorem declarations_undirected (attrs : Attrs) :
    attrs.undirected.declarations = attrs.declarations := by
  have htake : ∀ (d : Directive) (attrs : Attrs),
      (d.take "li" attrs).attrs.get? "style" = attrs.get? "style" := fun d attrs =>
    Directive.get?_take (by cases d <;> decide) (by cases d <;> decide) "li" attrs
  rw [declarations, declarations, undirected, Walk.takeBoth]
  simp only [htake]

end Attrs

/-! ## Default templates -/

/-- The default template of lists of a kind has been read from a source. -/
def Defaults.Reads (d : Defaults) (c : Template.Context) (kind : ElementKind) (source : Option String) :
    Prop :=
  (source = none → d.list kind = none) ∧ ∀ s, source = some s →
    ∃ t n, Template.parse s = .ok t ∧ d.list kind = some ⟨t, n, 0⟩ ∧ c.sources.idxOf? s = some n

theorem Template.Context.exists_read {c c' : Context} {origin : TemplateOrigin} {source : Option String}
    {i : Option Instance} (h : c.read origin source = (.ok i, c')) :
    c.Extends c' ∧ (source = none → i = none) ∧ ∀ s, source = some s →
      ∃ t n, Template.parse s = .ok t ∧ i = some ⟨t, n, 0⟩ ∧ c'.sources.idxOf? s = some n := by
  cases source with
  | none =>
    cases h
    exact ⟨.refl _, fun _ => rfl, by simp⟩
  | some source =>
    have hextends := c.extends_parse source
    cases hparse : Template.parse source with
    | error e =>
      rw [read, parse, hparse] at h
      cases h
    | ok t =>
      rw [parse, hparse] at hextends
      rw [read, parse, hparse] at h
      cases h
      refine ⟨hextends, by simp, fun s hs => ?_⟩
      cases hs
      exact ⟨t, _, hparse, rfl, c.idxOf?_number source⟩

theorem Defaults.reads_ofSettings {c c' : Template.Context} {settings : Settings} {d : Defaults}
    (h : ofSettings c settings = (.ok d, c')) (kind : ElementKind) :
    d.Reads c' kind (settings.listLabels kind) := by
  rw [ofSettings] at h
  split at h
  · cases h
  · split at h
    · cases h
    · split at h
      · cases h
      · rename_i hordered
        split at h
        · cases h
        · rename_i hunordered
          obtain ⟨-, hnone, hsome⟩ := Template.Context.exists_read hordered
          obtain ⟨hextends, hnone', hsome'⟩ := Template.Context.exists_read hunordered
          cases h
          cases kind with
          | heading level => exact ⟨fun _ => rfl, by simp [Settings.listLabels]⟩
          | unorderedList => exact ⟨hnone', hsome'⟩
          | orderedList =>
            refine ⟨hnone, fun s hs => ?_⟩
            obtain ⟨t, n, ht, hi, hn⟩ := hsome s hs
            obtain ⟨more, hmore⟩ := hextends
            refine ⟨t, n, ht, hi, ?_⟩
            rw [hmore]
            exact idxOf?_append_of_eq_some hn more

/-! ## The beginning of the list -/

namespace Walk
open State
variable {d : Defaults} {s : State} {kind : ElementKind} {tag : String} {attrs : Attrs}

theorem classes_enterList {attrs' : Attrs} {l : Option ListState} {s' : State}
    (h : enterList d kind tag attrs s = (attrs', l, s')) : attrs'.classes = attrs.classes := by
  rw [enterList] at h
  dsimp only at h
  split at h <;> cases h
  · simp
  · rw [classes_enterElement]
    simp
  · simp

/-- A list without a template. -/
theorem enterList_bare (hstack : s.scope.stack = []) (hdefault : d.Reads s.context kind none)
    (hvalue : (Directive.label.take tag attrs).value = none) :
    ∃ attrs' s', enterList d kind tag attrs s = (attrs', none, s') ∧ State.Same s s' := by
  have hlist : ∀ ws, (s.warn ws).listTemplate? d kind = none := fun ws => by
    simp [listTemplate?, Scope.findKind?, hstack, hdefault.1 rfl]
  rw [enterList, hvalue]
  simp only [templateOfList_none, hlist]
  have hwarn : ∀ ws, State.Same s (s.warn ws) := fun _ => ⟨rfl, rfl, rfl, rfl⟩
  exact ⟨_, _, rfl, (hwarn _).trans (same_enterElement ..)⟩

/-- A list with a template. -/
theorem enterList_follows {source : String} {default : Option String} (hstack : s.scope.stack = [])
    (hrun : s.failure = none) (hdefault : d.Reads s.context kind default)
    (hvalue : ∀ source ∈ (Directive.label.take tag attrs).value, (Template.parse source).isOk)
    (hsource : (Directive.label.take tag attrs).value.or default = some source) :
    ∃ attrs' s', enterList d kind tag attrs s =
        (attrs', some { series := s.scope.roster.series.size }, s') ∧
      s'.stylesheet = s.stylesheet ∧ Follows d s' s.scope.roster.series.size source 0 := by
  obtain ⟨t, n, c', ht, htemplate, hn⟩ : ∃ t n c', Template.parse source = .ok t ∧
      (∀ ws, (s.warn ws).templateOfList d kind tag (Directive.label.take tag attrs).value =
        (.ok (some ⟨t, n, 0⟩), { s.warn ws with context := c' })) ∧
      c'.sources.idxOf? source = some n := by
    cases hown : (Directive.label.take tag attrs).value with
    | none =>
      rw [hown, Option.none_or] at hsource
      obtain ⟨t, n, ht, hlist, hn⟩ := hdefault.2 source hsource
      refine ⟨t, n, s.context, ht, fun ws => ?_, hn⟩
      rw [templateOfList_none]
      simp only [listTemplate?, Scope.findKind?, scope_warn, hstack, hlist]
      rfl
    | some own =>
      rw [hown, Option.some_or] at hsource
      cases hsource
      obtain ⟨t, ht⟩ := exists_of_isOk (hvalue source hown)
      obtain ⟨n, c', hread, hn⟩ := Template.Context.read_of_ok ht s.context (.directive tag)
      refine ⟨t, n, c', ht, fun ws => ?_, hn⟩
      rw [templateOfList, readDirective, context_warn, hread]
  have hparent : t.segment.parent.bind s.scope.find? = none := by
    have hfind : s.scope.find? = fun _ => none := funext fun m => by simp [Scope.find?, hstack]
    rw [hfind]
    cases t.segment.parent <;> rfl
  rw [enterList]
  simp only [htemplate, start_eq]
  refine ⟨_, _, rfl, by simp, by simpa using hrun, ?_⟩
  refine ⟨s.scope.roster.newSeries kind ⟨t, n, 0⟩ none d.styled, ?_, rfl, rfl, ?_⟩
  · rw [scope_resolve]
    show (s.scope.started kind ⟨t, n, 0⟩ (t.segment.parent.bind s.scope.find?)
      d.styled).roster.view? _ = _
    rw [hparent]
    exact Roster.view?_create_self ..
  · refine serves_newSeries ht ?_ kind d.styled ?_
    · rw [context_resolve]
      exact hn
    · rw [scope_resolve]
      show (s.scope.started kind ⟨t, n, 0⟩ (t.segment.parent.bind s.scope.find?)
        d.styled).roster.keys = _
      rw [hparent]
      rfl

end Walk

/-! ## The walk over the list -/

namespace Draft
open Node State Walk ListLabel
variable {d : Defaults} {s : State} {kind : ElementKind} {tag : String} {attrs : Attrs}
  {default : Option String} {ns : List Draft} {table : RefTable}

theorem inertAll_of_flat (hns : ∀ n ∈ ns, n.Flat) (hclass : ∀ a ∈ itemAttrs ns, a.Unclassed) :
    InertAll ns := by
  induction ns with
  | nil => trivial
  | cons n rest ih =>
    have hrest := fun m hm => hns m (List.mem_cons_of_mem _ hm)
    cases n with
    | text content => exact ⟨trivial, ih hrest hclass⟩
    | split target pieces => exact ⟨trivial, ih hrest hclass⟩
    | element tag attrs label content =>
      obtain ⟨rfl, hlabel, hcontent⟩ := hns _ (List.mem_cons_self ..)
      exact ⟨⟨ofTag?_li, hclass attrs (List.mem_cons_self ..), hlabel, hcontent⟩,
        ih hrest fun a ha => hclass a (List.mem_cons_of_mem _ ha)⟩

theorem walkAll_text (d : Defaults) (table : RefTable) (hns : ∀ n ∈ ns, n.Flat) (hclass : ∀ a ∈ itemAttrs ns, a.Unclassed)
    (hrun : s.failure = none) (around : List ListPlace) (place : ListPlace) :
    (itemsInAll around (some place) (toNodesAll plainText table (walkAll d ns s).1)).map
        ListItem.text? = (itemAttrs ns).map fun _ => none := by
  induction ns generalizing s place with
  | nil =>
    rw [walkAll_nil]
    rfl
  | cons n rest ih =>
    have hrest := fun m hm => hns m (List.mem_cons_of_mem _ hm)
    rw [walkAll_cons]
    rcases n.leaf_or_element with hn | ⟨tag, attrs, label, content, rfl⟩
    · rw [itemAttrs_leaf hn] at hclass ⊢
      rw [walk_leaf hn, toNodesAll, itemsInAll_append, items_leaf hn]
      exact ih hrest hclass hrun _
    · obtain ⟨rfl, rfl, hcontent⟩ := hns _ (List.mem_cons_self ..)
      have hclass' := fun a ha => hclass a (List.mem_cons_of_mem _ ha)
      obtain ⟨hinert, hsame⟩ :=
        walkAll_inert d content hcontent (enterElement "li" attrs s).state
      have hrun' := hsame.failure.trans ((same_enterElement "li" attrs s).failure.trans hrun)
      rw [walk_other (by simp [isStopped, hrun]) ofTag?_li, items_flat hinert, List.map_cons,
        ListItem.text?, labelOf_label hinert, ih hrest hclass' hrun']
      rfl

/-- The stylesheet and the classes of a list with labels. -/
theorem Marked.rendered {last : State} {source : String} {as : List Attrs}
    {w : List Draft × ListState × State} (h : Marked last (start source) as s w)
    (hsheet : s.stylesheet = {}) (hclass : attrs.Unclassed) :
    ∀ l ∈ ((start source).labels (as.map Attrs.request)).reduceOption,
      Rendered last.styleKey w.2.2.stylesheet (w.2.1.classes.foldl Attrs.addClass attrs)
        ((start source).labels (as.map Attrs.request)).reduceOption l.first := by
  intro l hl
  obtain ⟨hbegun, hfirst⟩ := begun_labels source (as.map Attrs.request) l hl
  refine ⟨?_, ?_, hfirst, hbegun, fun l hl l' hl' heq => ?_⟩
  · rw [h.stylesheet, hsheet]
  · rw [h.classes l hl]
    exact Attrs.styleClasses_drawn hclass _
  · exact styleKey_injective (h.styles l hl) (h.styles l' hl') heq

/-- What the stylesheet draws before the items of a list with labels. -/
theorem Marked.counted {last : State} {source : String} {as : List Attrs}
    {w : List Draft × ListState × State} (h : Marked last (start source) as s w)
    (hsheet : s.stylesheet = {}) (hclass : attrs.Unclassed)
    (has : ∀ a ∈ as, a.Unclassed ∧ a.Unreset) :
    w.2.2.stylesheet.counted (fun _ => 0) (itemsInAll []
        (some (w.2.1.classes.foldl Attrs.addClass attrs, 0)) (toNodesAll plainText table w.1)) =
      ((start source).labels (as.map Attrs.request)).map
        (Option.map fun l => (Segment.ofSource l.source).shown l.displayed) := by
  refine counted_labels (h.rendered hsheet hclass) as (fun a ha => ?_) ⟨?_, ?_, ?_⟩
    (fun l hl => hl) (h.items [] table (w.2.1.classes.foldl Attrs.addClass attrs, 0))
  · obtain ⟨hclass, hstyle⟩ := has a ha
    rw [Attrs.Unclassed, Attrs.classes_undirected, Attrs.Unreset, Attrs.declarations_undirected]
    exact ⟨hclass, hstyle⟩
  · exact fun hpos => absurd hpos (Nat.lt_irrefl 0)
  · exact fun _ => ⟨rfl, fun _ => rfl⟩
  · exact fun hpos => absurd hpos (Nat.lt_irrefl 0)

section
variable (hk : ElementKind.ofTag? tag = some kind) (hlist : kind.isList)
  (hstack : s.scope.stack = []) (hrun : s.failure = none)
  (hdefault : d.Reads s.context kind default)
  (hvalue : ∀ source ∈ (Directive.label.take tag attrs).value, (Template.parse source).isOk)
  (hns : ∀ n ∈ ns, n.Flat) (hrequests : ∀ a ∈ itemAttrs ns, a.request.Readable)
include hk hlist hstack hrun hdefault hvalue hns hrequests

/-- The labels of the list as text. -/
theorem walk_list_text (hd : d.styled = false) (hclass : ∀ a ∈ itemAttrs ns, a.Unclassed) :
    (walk d (element tag attrs none ns) s).2.failure = none ∧
      (itemsInAll [] none (toNodes plainText table (walk d (element tag attrs none ns) s).1)).map
          ListItem.text? =
        (ListLabel.ofList ((Directive.label.take tag attrs).value.or default)
          ((itemAttrs ns).map Attrs.request)).map
          (Option.map fun l => (Segment.ofSource l.source).shown l.number) := by
  have hli := ne_li hk
  have hstopped : ¬s.isStopped := by simp [isStopped, hrun]
  cases hsource : (Directive.label.take tag attrs).value.or default with
  | none =>
    obtain ⟨hnone, rfl⟩ := Option.or_eq_none_iff.1 hsource
    obtain ⟨attrs', s', henter, hsame⟩ := enterList_bare hstack hdefault hnone
    have hrun' := hsame.failure.trans hrun
    rw [walk_bareList hstopped hk hlist henter, items_inner hli, hk, Option.any_some, if_pos hlist,
      walkAll_text d table hns hclass hrun', ofList, Option.elim_none, List.map_map, List.map_map]
    exact ⟨(walkAll_inert d ns (inertAll_of_flat hns hclass) s').2.failure.trans hrun', rfl⟩
  | some source =>
    obtain ⟨attrs', s', henter, -, hfollows⟩ :=
      enterList_follows hstack hrun hdefault hvalue hsource
    obtain ⟨hend, hitems⟩ := walkItems_text hd kind hns
      (fun a ha _ => (hrequests a ha).parse) (p := start source)
      (k := { series := s.scope.roster.series.size }) hfollows
    rw [walk_list hstopped hk hlist henter, items_inner hli, hk, Option.any_some, if_pos hlist]
    exact ⟨(failure_leaveList _ _).trans hend, hitems ..⟩

/-- The labels of the list by counters. -/
theorem walk_list_counted (hd : d.styled = true) (hsheet : s.stylesheet = {})
    (hattrs : attrs.Unclassed) (hitems : ∀ a ∈ itemAttrs ns, a.Unclassed ∧ a.Unreset) :
    (walk d (element tag attrs none ns) s).2.failure = none ∧
      (walk d (element tag attrs none ns) s).2.stylesheet.counted (fun _ => 0)
          (itemsInAll [] none (toNodes plainText table (walk d (element tag attrs none ns) s).1)) =
        (ListLabel.ofList ((Directive.label.take tag attrs).value.or default)
          ((itemAttrs ns).map Attrs.request)).map
          (Option.map fun l => (Segment.ofSource l.source).shown l.displayed) := by
  have hli := ne_li hk
  have hclass := fun a ha => (hitems a ha).1
  have hstopped : ¬s.isStopped := by simp [isStopped, hrun]
  cases hsource : (Directive.label.take tag attrs).value.or default with
  | none =>
    obtain ⟨hnone, rfl⟩ := Option.or_eq_none_iff.1 hsource
    obtain ⟨attrs', s', henter, hsame⟩ := enterList_bare hstack hdefault hnone
    have hrun' := hsame.failure.trans hrun
    obtain ⟨-, hwalk⟩ := walkAll_inert d ns (inertAll_of_flat hns hclass) s'
    have hcount := congrArg List.length (walkAll_text d table hns hclass hrun' [] (attrs', 0))
    rw [List.length_map, List.length_map] at hcount
    rw [walk_bareList hstopped hk hlist henter, items_inner hli, hk, Option.any_some, if_pos hlist,
      hwalk.stylesheet, hsame.stylesheet, hsheet, Stylesheet.counted_empty, ofList,
      Option.elim_none, List.map_map, List.map_map, List.map_const', hcount]
    exact ⟨hwalk.failure.trans hrun', (List.map_const' ..).symm⟩
  | some source =>
    obtain ⟨attrs', s', henter, hsheet', hfollows⟩ :=
      enterList_follows hstack hrun hdefault hvalue hsource
    have hattrs' : attrs'.Unclassed := by
      rw [Attrs.Unclassed, classes_enterList henter]
      exact hattrs
    have hmarked := walkItems_marks hd kind hns (fun a ha _ => (hrequests a ha).parse)
      (k := { series := s.scope.roster.series.size }) (p := start source) hfollows
      ⟨fun _ => ⟨⟨rfl, rfl⟩, rfl⟩, fun hpos => absurd hpos (Nat.lt_irrefl 0),
        fun hpos => absurd hpos (Nat.lt_irrefl 0)⟩ (.refl _)
    have hsheet'' : ∀ (l : ListState) (s : State), (leaveList l s).stylesheet = s.stylesheet :=
      fun l s => by
        rw [leaveList]
        split <;> rfl
    rw [walk_list hstopped hk hlist henter, items_inner hli, hk, Option.any_some, if_pos hlist,
      hsheet'']
    exact ⟨(failure_leaveList _ _).trans hmarked.running,
      hmarked.counted (hsheet'.trans hsheet) hattrs' hitems⟩

end

/-! ## The draft of a list -/

theorem flat_ofNodes {ns : List Node} (honly : ns.all fun n => n.tag?.all (· == "li"))
    (hinert : ∀ n ∈ ns, ∀ m ∈ preorderAll n.children, ∀ tag ∈ m.tag?, ElementKind.ofTag? tag = none)
    (hclass : ∀ m ∈ preorderAll ns, ∀ attrs ∈ m.attrs?, attrs.Unclassed) (target : Option String) :
    ∀ n ∈ markRefsAll target (ofNodes ns), n.Flat := by
  induction ns with
  | nil => intro n hn; cases hn
  | cons n rest ih =>
    rw [List.all_cons, Bool.and_eq_true] at honly
    rw [ofNodes, markRefsAll, List.forall_mem_cons]
    refine ⟨?_, ih honly.2 (fun m hm => hinert m (List.mem_cons_of_mem _ hm))
      fun m hm => hclass m (List.mem_append_right _ hm)⟩
    cases n with
    | text content =>
      cases target with
      | none => trivial
      | some target =>
        rw [ofNode, Draft.markRefs, Option.elim_some, markText]
        split <;> trivial
    | element tag attrs children =>
      refine ⟨by simpa [tag?] using honly.1, rfl, InertAll.markRefsAll ?_ _⟩
      exact inertAll_ofNodes children (hinert _ (List.mem_cons_self ..)) fun m hm =>
        hclass m (List.mem_append_left _ (List.mem_cons_of_mem _ hm))

theorem itemAttrs_ofNodes (ns : List Node) (target : Option String) :
    itemAttrs (markRefsAll target (ofNodes ns)) = ns.filterMap attrs? := by
  induction ns with
  | nil => rfl
  | cons n rest ih =>
    rw [itemAttrs] at ih ⊢
    rw [ofNodes, markRefsAll, List.filterMap_cons, List.filterMap_cons, ih]
    cases n with
    | element tag attrs children => rfl
    | text content =>
      cases target with
      | none => rfl
      | some target =>
        rw [ofNode, Draft.markRefs, Option.elim_some, markText]
        by_cases h : (Piece.scan content).any Piece.isMarker
        · rw [if_pos h]
          rfl
        · rw [if_neg h]
          rfl

theorem unclassed_of_mem {ns : List Node}
    (hclass : ∀ m ∈ preorderAll ns, ∀ attrs ∈ m.attrs?, attrs.Unclassed) :
    ∀ a ∈ ns.filterMap attrs?, a.Unclassed := by
  induction ns with
  | nil => intro a ha; cases ha
  | cons n rest ih =>
    intro a ha
    rw [List.mem_filterMap] at ha
    obtain ⟨m, hm, hattrs⟩ := ha
    rcases List.mem_cons.1 hm with rfl | hm
    · refine hclass m (List.mem_append_left _ ?_) a hattrs
      cases m with
      | text content => cases hattrs
      | element => exact List.mem_cons_self ..
    · exact ih (fun m hm => hclass m (List.mem_append_right _ hm)) a
        (List.mem_filterMap.2 ⟨m, hm, hattrs⟩)

end Draft

/-! ## Whole runs -/

namespace Labelling
open Draft Node State

theorem apply_element {settings : Settings} {c c' : Template.Context} {d : Defaults}
    (h : Defaults.ofSettings c settings = (.ok d, c')) (n : Node) :
    ∃ s, s.scope.stack = [] ∧ s.failure = none ∧ s.context = c' ∧ s.stylesheet = {} ∧
      let run := (Labelling.mk settings plainText).apply c (.root [n])
      let w := walk d ((ofNode n).markRefs (targetInside none rootTag [])) s
      run.result = w.2.result ∧
        run.document.items = itemsInAll [] none (toNodes plainText w.2.refs w.1) := by
  have hroot : ElementKind.ofTag? rootTag = none := by decide
  have happly := apply_of_read (l := ⟨settings, plainText⟩) h (.root [n])
  have hdraft : (ofNode (.root [n])).markRefs none =
      .element rootTag [] none [(ofNode n).markRefs (targetInside none rootTag [])] := rfl
  rw [hdraft] at happly
  dsimp only at happly
  generalize hbegin : begin c' (.element rootTag [] none
    [(ofNode n).markRefs (targetInside none rootTag [])]) = s at happly
  have hrun : s.failure = none := by rw [← hbegin]; rfl
  have hsame := Walk.same_enterElement rootTag [] s
  rw [walk_other (by simp [isStopped, hrun]) hroot, walkAll_cons, walkAll_nil] at happly
  refine ⟨(Walk.enterElement rootTag [] s).state, ?_, hsame.failure.trans hrun, ?_, ?_, ?_, ?_⟩
  · rw [hsame.scope, ← hbegin]
    rfl
  · rw [hsame.context, ← hbegin]
    rfl
  · rw [hsame.stylesheet, ← hbegin]
    rfl
  · rw [happly]
  · rw [happly, items_toNode, items_inner (by decide), hroot, toNodesAll, toNodesAll, List.append_nil]
    rfl

/-- A document of one list, whose items have no lists and headings in them and ask for labels in any way,
without classes and counters of labels. The counters show the labels as text, but where an item has asked
for the template of the first label again they show the number one: at that item and behind it, up to the
next template. The two modes show the same labels just if those numbers look the same. -/
theorem labels_repeated (settings : Settings) (c : Template.Context) (tag : String) (attrs : Attrs)
    (children : List Node) {d : Defaults} (kind : ElementKind)
    (hsettings : (Defaults.ofSettings c settings).1 = .ok d)
    (hk : ElementKind.ofTag? tag = some kind) (hlist : kind.isList)
    (hvalue : ∀ source ∈ (Directive.label.take tag attrs).value, (Template.parse source).isOk)
    (honly : children.all fun n => n.tag?.all (· == "li"))
    (hinert : ∀ n ∈ children, ∀ m ∈ preorderAll n.children, ∀ tag ∈ m.tag?,
      ElementKind.ofTag? tag = none)
    (hclass : (Node.element tag attrs children).Unclassed)
    (hitems : ∀ a ∈ children.filterMap attrs?, a.request.Readable ∧ a.Unreset) :
    let doc := Node.root [.element tag attrs children]
    let labels := settings.labels kind tag attrs children
    let text := (Labelling.mk { settings with mode := .text } plainText).apply c doc
    let css := (Labelling.mk { settings with mode := .css } plainText).apply c doc
    ∃ report report', text.result = .ok report ∧ css.result = .ok report' ∧
      text.document.items.map ListItem.text? =
        labels.map (Option.map fun l => (Segment.ofSource l.source).shown l.number) ∧
      report'.stylesheet.counted (fun _ => 0) css.document.items =
        labels.map (Option.map fun l => (Segment.ofSource l.source).shown l.displayed) ∧
      (report'.stylesheet.counted (fun _ => 0) css.document.items =
          text.document.items.map ListItem.text? ↔
        ∀ l ∈ labels.reduceOption, l.Repeats →
          (Segment.ofSource l.source).shown 1 = (Segment.ofSource l.source).shown l.number) := by
  intro doc labels text css
  rcases hread : Defaults.ofSettings c settings with ⟨result, c'⟩
  obtain rfl : result = .ok d := by
    rw [hread] at hsettings
    exact hsettings
  have hreadText := Defaults.ofSettings_mode hread .text
  have hreadCss := Defaults.ofSettings_mode hread .css
  obtain ⟨s, hstack, hrun, hcontext, -, htext, htextItems⟩ :=
    apply_element hreadText (.element tag attrs children)
  obtain ⟨t, hstack', hrun', hcontext', hsheet, hcss, hcssItems⟩ :=
    apply_element hreadCss (.element tag attrs children)
  have hbelow : ∀ m ∈ preorderAll children, ∀ attrs ∈ m.attrs?, attrs.Unclassed :=
    fun m hm => hclass m (List.mem_cons_of_mem _ hm)
  generalize targetInside none rootTag [] = outside at htext htextItems hcss hcssItems
  have hflat := flat_ofNodes honly hinert hbelow (targetInside outside tag attrs)
  have hattrs := itemAttrs_ofNodes children (targetInside outside tag attrs)
  have hunclassed := unclassed_of_mem hbelow
  rw [← hattrs] at hunclassed hitems
  have hreads := Defaults.reads_ofSettings hreadText kind
  have hreads' := Defaults.reads_ofSettings hreadCss kind
  rw [← hcontext] at hreads
  rw [← hcontext'] at hreads'
  have hrequests := fun a ha => (hitems a ha).1
  obtain ⟨hend, hshown⟩ := walk_list_text hk hlist hstack hrun hreads hvalue hflat hrequests rfl
    hunclassed
  obtain ⟨hend', hcounted⟩ := walk_list_counted hk hlist hstack' hrun' hreads' hvalue hflat hrequests
    rfl hsheet (hclass _ (List.mem_cons_self ..) _ rfl) fun a ha => ⟨hunclassed a ha, (hitems a ha).2⟩
  have hlabels : ∀ mode, ListLabel.ofList ((Directive.label.take tag attrs).value.or
      (Settings.listLabels { settings with mode } kind)) ((children.filterMap attrs?).map Attrs.request) =
      labels := by
    cases kind <;> exact fun _ => rfl
  rw [hattrs, hlabels] at hshown hcounted
  have htextLabels : text.document.items.map ListItem.text? =
      labels.map (Option.map fun l => (Segment.ofSource l.source).shown l.number) :=
    (congrArg _ htextItems).trans hshown
  obtain ⟨report', hresult', hcssLabels⟩ : ∃ report', css.result = .ok report' ∧
      report'.stylesheet.counted (fun _ => 0) css.document.items =
        labels.map (Option.map fun l => (Segment.ofSource l.source).shown l.displayed) :=
    ⟨_, hcss.trans (result_of_running hend'), (congrArg _ hcssItems).trans hcounted⟩
  refine ⟨_, report', htext.trans (result_of_running hend), hresult', htextLabels, hcssLabels, ?_⟩
  rw [htextLabels, hcssLabels]
  exact ListLabel.shown_displayed_iff labels

/-- Other templates, an item without a label, and counters that show the labels as text. -/
theorem labels_repeated_fresh :
    let settings : Settings := { orderedLabels := some "1" }
    let doc : Node := .root [.element "ol" [] [.element "li" [] [], .element "li" [("-label", "(a)")] [],
      .element "li" [("-no-label", "")] [], .element "li" [] [],
      .element "li" [("-label", "I")] []]]
    let css := (Labelling.mk { settings with mode := .css } plainText).apply {} doc
    ∃ report, css.result = .ok report ∧
      report.stylesheet.counted (fun _ => 0) css.document.items =
        [some "1", some "(a)", none, some "(b)", some "I"] := by
  intro settings doc css
  have hread : (Defaults.ofSettings {} settings).1.toOption.isSome = true := by decide +kernel
  cases hsettings : (Defaults.ofSettings {} settings).1 with
  | error e =>
    rw [hsettings] at hread
    cases hread
  | ok d =>
    obtain ⟨-, report, -, hresult, -, hlabels, -⟩ := labels_repeated settings {} "ol" []
      [.element "li" [] [], .element "li" [("-label", "(a)")] [],
        .element "li" [("-no-label", "")] [], .element "li" [] [], .element "li" [("-label", "I")] []]
      .orderedList hsettings (by decide) rfl (by decide) (by decide) (by decide)
      (by decide) (by decide +kernel)
    refine ⟨report, hresult, hlabels.trans ?_⟩
    decide +kernel

/-- An item asks for the template of the first label again. The item behind it has the number two as
text, and the number one by counters. -/
theorem labels_repeated_first :
    let settings : Settings := { orderedLabels := some "1" }
    let doc : Node := .root [.element "ol" [] [.element "li" [] [.text "a"],
      .element "li" [("-label", "1")] [.text "b"], .element "li" [] [.text "c"]]]
    let text := (Labelling.mk { settings with mode := .text } plainText).apply {} doc
    let css := (Labelling.mk { settings with mode := .css } plainText).apply {} doc
    text.document.items.map ListItem.text? = [some "1", some "1", some "2"] ∧
      css.result.toOption.map (fun report =>
        report.stylesheet.counted (fun _ => 0) css.document.items) =
        some [some "1", some "1", some "1"] := by
  decide +kernel

end Labelling
end Rubric
