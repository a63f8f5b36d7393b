import Rubric.Proofs.Stylesheet.Shown

/-!
# Labels by counters show the labels as text

* `Shows`, `ShowsAll`, `ShowsItems` : two walks through lists, one with counters and the other with text, show
  the same labels; `shows_cases` : they do if the walks through the parts do;
* `walk_shows_outside` : so do two walks through a document without headings in lists;
* `Labelling.labels_shown` : the labels of two runs.
-/

namespace Rubric

namespace Walk
variable {d : Defaults}

theorem itemDraw_of_undirected {attrs : Attrs} (h : attrs.Undirected) (d : Defaults)
    (kind : ElementKind) (l : ListState) (tag : String) (s : State) :
    itemDraw d kind l tag attrs s = [nextDraw l s] := by
  simp [itemDraw, takeBoth_of_undirected h]

end Walk

theorem Node.labelOf_labelSpan (label : String) (ns : List Node) :
    labelOf (Draft.labelSpan Draft.plainText label :: ns) = some label := by
  have hclass : Attrs.hasClass [("class", Css.labelClass)] Css.labelClass = true := by decide
  simp [labelOf, Draft.labelSpan, Draft.plainText, hclass]

namespace Draft
open Node State Walk Scope

theorem walkItems_begun {d : Defaults} (hd : d.styled = true) (kind : ElementKind) {ns : List Draft}
    (hns : TidyAll ns) (hitems : ns.all isItem) {l : ListState} {t : State} (hrun : t.failure = none)
    {v : Series} (hv : t.scope.roster.view? l.series = some v) (hstyled : v.styled = true)
    (hl : l.Begun v.key ∨ l.Fresh ∧ ns.any isElement) :
    (walkItems d kind ns l t).2.1.Begun v.key := by
  induction ns generalizing l t v with
  | nil =>
    rw [walkItems_nil]
    exact hl.resolve_right fun h => by simp at h
  | cons n rest ih =>
    rw [List.all_cons, Bool.and_eq_true] at hitems
    rcases n.leaf_or_element with hn | ⟨tag, attrs, label, content, rfl⟩
    · rw [walkItems_leaf hn]
      rw [List.any_cons, isElement_eq_false_iff.2 hn, Bool.false_or] at hl
      exact ih hns.2 hitems.2 hrun hv hstyled hl
    · obtain rfl : tag = "li" := by simpa [isItem] using hitems.1
      obtain ⟨ha, -, -, -, hcontent⟩ := hns.1
      have hstopped : ¬t.isStopped := by simp [isStopped, hrun]
      rw [walkItems_item hstopped, enterItem_of_undirected ha]
      obtain ⟨-, -, hbegun⟩ := drawItem_styled hd hv hstyled (hl.symm.imp_left And.left) attrs
      have hdraw := drawItem_steps d l attrs t
      have hwalk := walkAll_steps d content (drawItem d l attrs t).1.state
      have hleave := leaveItem_steps d (drawItem d l attrs t).2
        (walkAll d content (drawItem d l attrs t).1.state).2
      obtain ⟨m, hm⟩ := (hdraw.trans (hwalk.trans hleave)).grows.view _ v hv
      have hself : Twin (drawItem d l attrs t).1.state (drawItem d l attrs t).1.state :=
        ⟨rfl, by simpa using hrun, by simpa using hrun⟩
      have hrun' := (failure_leaveItem (drawItem d l attrs t).2 _).trans
        (walkAll_twin d d.styled content hcontent.plain hself).left
      exact ih (v := { v with count := m }) hns.2 hitems.2 hrun' hm hstyled (Or.inl hbegun)

theorem walkItems_inertAll (d : Defaults) (kind : ElementKind) {ns : List Draft}
    (h : ns.any isElement = false) (l : ListState) (s : State) :
    walkItems d kind ns l s = (ns, l, s) := by
  induction ns with
  | nil => exact walkItems_nil
  | cons n rest ih =>
    rw [List.any_cons, Bool.or_eq_false_iff] at h
    rw [walkItems_leaf (isElement_eq_false_iff.1 h.1), ih h.2]

theorem advanceAll_split (table : RefTable) (target : String) (pieces : List Piece) (l : ListPlace) :
    advanceAll (toNodes plainText table (split target pieces)) l = l := by
  rw [toNodes]
  induction pieces with
  | nil => rfl
  | cons p rest ih =>
    have hp : advance (pieceNode plainText table target p) l = l := by
      cases p <;> simp [pieceNode, refSpan, advance, isCounted]
    rw [List.map_cons, advanceAll, List.foldl_cons, hp]
    exact ih

theorem advanceAll_leaf {n : Draft} (hn : n.Leaf) (table : RefTable) (l : ListPlace) :
    advanceAll (toNodes plainText table n) l = l := by
  cases n with
  | text content => rfl
  | split target pieces => exact advanceAll_split table target pieces l
  | element => exact (hn _ _ _ _ rfl).elim

theorem advance_li {attrs : Attrs} (h : attrs.Unclassed) (ns : List Node) (l : ListPlace) :
    advance (.element "li" attrs ns) l = (l.1, l.2 + 1) := by
  have hlabel : attrs.hasClass Css.noLabelClass = false :=
    Attrs.not_hasClass_of_unclassed h (by decide)
  simp [advance, isCounted, hlabel]

theorem advanceAll_li {attrs : Attrs} (h : attrs.Unclassed) (table : RefTable)
    (label : Option String) (children : List Draft) (l : ListPlace) :
    advanceAll (toNodes plainText table (element "li" attrs label children)) l = (l.1, l.2 + 1) := by
  rw [toNodes, advanceAll, List.foldl_cons, List.foldl_nil, advance_li h]

variable (d : Defaults) {draws' : List Draw} {sheet : Stylesheet} {table table' : RefTable}

variable (sheet) (table) (table') (draws')

/-- Inside of lists, the labels of two walks over a node, one with text and the other with counters. -/
def Shows (n : Draft) (t : State) : Prop :=
  n.Tidy → headingLevels n = [] → (∀ w ∈ draws d n t, w ∈ draws') →
  ∀ (s : State) (e : List ListPlace) (ids : List SeriesId), Beside d t s e ids →
  ∀ (a : List ListPlace) (l l' : Option ListPlace), Alike l l' →
    (itemsInAll a l (toNodes plainText table (walk d.asText n s).1)).map ListItem.text? =
      (itemsInAll e l' (toNodes plainText table' (walk d n t).1)).map sheet.drawn?

def ShowsAll (ns : List Draft) (t : State) : Prop :=
  TidyAll ns → headingLevelsAll ns = [] → (∀ w ∈ drawsAll d ns t, w ∈ draws') →
  ∀ (s : State) (e : List ListPlace) (ids : List SeriesId), Beside d t s e ids →
  ∀ (a : List ListPlace) (l l' : Option ListPlace), Alike l l' →
    (itemsInAll a l (toNodesAll plainText table (walkAll d.asText ns s).1)).map ListItem.text? =
      (itemsInAll e l' (toNodesAll plainText table' (walkAll d ns t).1)).map sheet.drawn?

/-- The same for nodes in a row that are the items of a list with a series. -/
def ShowsItems (kind : ElementKind) (ns : List Draft) (k : ListState) (t : State) : Prop :=
  TidyAll ns → ns.all isItem → headingLevelsAll ns = [] → (∀ w ∈ drawsItems d kind ns k t, w ∈ draws') →
  ∀ (k' : ListState) (s : State) (e : List ListPlace) (ids : List SeriesId),
    Between d t s e ids k.series → k.series = k'.series →
  ∀ v : Series, t.scope.roster.view? k.series = some v →
    (k.Fresh ∨ k.Begun v.key ∧ ∃ first ∈ draws', first.items? = some (v.key, none)) →
  ∀ (a : List ListPlace) (p : ListPlace) (A : Attrs), A.styleClasses = [(Css.styleName v.key).toList] →
    (itemsInAll a (some p) (toNodesAll plainText table (walkItems d.asText kind ns k' s).1)).map
        ListItem.text? =
      (itemsInAll e (some (A, v.count)) (toNodesAll plainText table' (walkItems d kind ns k t).1)).map
        sheet.drawn?

variable {sheet table table' draws'}

/-- A list that goes on has its first label among the draws. -/
theorem exists_first {k : ListState} {t : State} {v : Series} (hv : t.scope.roster.view? k.series = some v)
    (hdraw : nextDraw k t ∈ draws')
    (hbegun : k.Fresh ∨ k.Begun v.key ∧ ∃ first ∈ draws', first.items? = some (v.key, none)) :
    ∃ first ∈ draws', first.items? = some (v.key, none) := by
  rcases hbegun with hfresh | ⟨-, hfirst⟩
  · exact ⟨nextDraw k t, hdraw, items?_nextDraw hv hfresh⟩
  · exact hfirst

/-- An item shows the same label in both walks, if what is in it and behind it does. -/
theorem shows_item (hd : d.styled = true) (hsheet : sheet.Says draws') {kind : ElementKind} {attrs : Attrs}
    {label : Option String} {content rest : List Draft} {k : ListState} {t : State} (h : ¬t.isStopped)
    (hcontent : ShowsAll d draws' sheet table table' content (enterItem d kind k "li" attrs t).1.state)
    (hrest : ShowsItems d draws' sheet table table' kind rest (enterItem d kind k "li" attrs t).2
      (leaveItem (enterItem d kind k "li" attrs t).2
        (walkAll d content (enterItem d kind k "li" attrs t).1.state).2)) :
    ShowsItems d draws' sheet table table' kind (element "li" attrs label content :: rest) k t := by
  intro hns hitems hfree hdraws k' s e ids hb hk v hv hbegun a p A hA
  obtain ⟨⟨ha, hclass, -, -, hinner⟩, hns⟩ := hns
  obtain ⟨hfirst, hfree⟩ := List.append_eq_nil_iff.1 hfree
  rw [headingLevels_other not_heading_li] at hfirst
  rw [List.all_cons, Bool.and_eq_true] at hitems
  rw [enterItem_of_undirected ha] at hcontent hrest
  rw [drawsItems_item h, enterItem_of_undirected ha, itemDraw_of_undirected ha] at hdraws
  rw [walkItems_item hb.twin.stopped_right, walkItems_item h, enterItem_of_undirected ha,
    enterItem_of_undirected ha]
  dsimp only at hdraws ⊢
  obtain ⟨hdraw, hdraws⟩ := List.forall_mem_append.1 hdraws
  obtain ⟨hdraws, hdraws'⟩ := List.forall_mem_append.1 hdraws
  have hdraw := List.forall_mem_singleton.1 hdraw
  obtain ⟨w, hw, hstyled, -⟩ := hb.entered.nested.of_mem (List.mem_cons_self ..)
  rw [hv] at hw
  cases hw
  obtain ⟨hattrs, hlabel, hnow⟩ := drawItem_styled hd hv hstyled (hbegun.imp_right And.left) attrs
  obtain ⟨hattrs', hlabel'⟩ := drawItem_text (d := d.asText) rfl k' attrs s
  obtain ⟨first, hmem, hitemsOf⟩ := exists_first hv hdraw hbegun
  have hrules := hsheet _ hdraw first hmem _ hitemsOf (key?_nextDraw hv)
  obtain ⟨hinside, -⟩ := hb.item hk hv hA attrs
  obtain ⟨hnext, hcount⟩ := hb.next hk hv hA attrs hinner hfirst
  have hlater := hrest hns hitems.2 hfree hdraws' (drawItem d.asText k' attrs s).2 _ _ _ hnext hk _ hcount
    (Or.inr ⟨hnow, first, hmem, hitemsOf⟩) a (p.1, p.2 + 1) A hA
  have hinner := hcontent hinner hfirst hdraws _ _ _ hinside ((p.1, p.2 + 1) :: a) _ _ .none
  rw [toNodesAll, toNodesAll, itemsInAll_append, itemsInAll_append, List.map_append, List.map_append,
    hattrs, hattrs', hlabel, hlabel', items_li, items_li]
  simp only [Option.map_some, Option.toList_some, List.singleton_append, List.map_cons,
    advance_li hclass, advanceAll_li hclass, ListItem.text?, labelOf_labelSpan]
  rw [hb.shown_item hk hv hA hrules hclass, hinner, hlater]

/-- Inside of lists, two walks show the same labels if their parts do. -/
theorem shows_cases (hd : d.styled = true) (hsheet : sheet.Says draws') :
    WalkCases d (Shows d draws' sheet table table') (ShowsAll d draws' sheet table table')
      (ShowsItems d draws' sheet table table') where
  stopped n t h _ _ _ s e ids hb := absurd h hb.twin.stopped_left
  leaf n t _ hn _ _ _ s e ids _ a l l' _ := by
    rw [walk_leaf hn, walk_leaf hn, items_leaf hn, items_leaf hn]
    rfl
  heading level tag attrs label children t _ hk _ hfree := by
    rw [headingLevels_heading hk] at hfree
    cases hfree
  other tag attrs label children t h hk hchildren hn hfree hdraws s e ids hb a l l' hl := by
    obtain ⟨ha, hclass, rfl, -, hn⟩ := hn
    rw [headingLevels_other (not_heading_of_none hk)] at hfree
    rw [enterElement_of_undirected ha] at hchildren
    rw [draws_other h hk, enterElement_of_undirected ha] at hdraws
    rw [walk_other hb.twin.stopped_right hk, walk_other h hk, enterElement_of_undirected ha,
      enterElement_of_undirected ha]
    have hinside := hchildren hn hfree hdraws _ _ _ (hb.resolve attrs)
    by_cases hli : tag = "li"
    · subst hli
      exact shows_li hl attrs (labelOf_toNodesAll (unspanned_walkAll d.asText hn _)) (hinside _ _ _ .none)
        fun p p' hp => hchildren hn hfree hdraws _ _ _ ((hb.resolve attrs).bare hp) _ _ _ .none
    · rw [items_inner hli, items_inner hli, hk]
      exact hinside _ _ _ .none
  bareList kind tag attrs attrs' label children t t' h hk hlist he hchildren hn hfree hdraws s e ids hb a l l' _ := by
    obtain ⟨ha, hclass, rfl, -, hn⟩ := hn
    obtain ⟨hnone, rfl, rfl⟩ := enterList_bare_of_undirected ha he
    have hs := enterList_of_undirected ha d.asText kind tag s
    rw [← hb.twin.listTemplate?_eq d kind false, hnone] at hs
    rw [headingLevels_other (not_heading_of_list hk hlist)] at hfree
    rw [draws_bareList h hk hlist he] at hdraws
    rw [walk_bareList hb.twin.stopped_right hk hlist hs, walk_bareList h hk hlist he, items_inner (ne_li hk),
      items_inner (ne_li hk), hk, Option.any_some, if_pos hlist]
    exact hchildren hn hfree hdraws _ _ _ (hb.resolve attrs') _ _ _
      (.some _ (Attrs.styleClasses_of_unclassed hclass))
  list kind tag attrs attrs' label children k t t' h hk hlist he hchildren hn hfree hdraws s e ids hb a l l' _ := by
    obtain ⟨ha, hclass, rfl, honly, hn⟩ := hn
    have honly := honly (by rw [hk]; exact hlist)
    obtain ⟨template, hsome, rfl, -, -⟩ := enterList_started_of_undirected ha he
    obtain ⟨_, s', ht, hs, hbetween, hv⟩ := hb.start hd hlist hsome tag ha
    cases he.symm.trans ht
    rw [headingLevels_other (not_heading_of_list hk hlist)] at hfree
    rw [draws_list h hk hlist he] at hdraws
    rw [walk_list hb.twin.stopped_right hk hlist hs, walk_list h hk hlist he, items_inner (ne_li hk),
      items_inner (ne_li hk), hk, Option.any_some, if_pos hlist, if_pos hlist]
    cases helement : children.any isElement with
    | false =>
      rw [walkItems_inertAll d kind helement, walkItems_inertAll d.asText kind helement,
        items_inert helement, items_inert helement]
      rfl
    | true =>
      have hfresh : ListState.Fresh { series := t.scope.roster.series.size } := ⟨rfl, rfl⟩
      have hbegun := walkItems_begun hd kind hn honly hbetween.twin.left hv rfl (Or.inr ⟨hfresh, helement⟩)
      rw [hbegun.2]
      exact hchildren hn honly hfree hdraws { series := s.scope.roster.series.size } _ _ _ hbetween
        hb.twin.size_eq _ hv (Or.inl hfresh) a _ _ (Attrs.styleClasses_drawn hclass _)
  nil t _ _ _ s e ids _ a l l' _ := by
    rw [walkAll_nil, walkAll_nil]
    rfl
  cons n rest t hfirst hrest hns hfree hdraws s e ids hb a l l' hl := by
    obtain ⟨hfree, hfree'⟩ := List.append_eq_nil_iff.1 hfree
    rw [drawsAll] at hdraws
    obtain ⟨hdraws, hdraws'⟩ := List.forall_mem_append.1 hdraws
    rw [walkAll_cons, walkAll_cons, toNodesAll, toNodesAll, itemsInAll_append, itemsInAll_append,
      List.map_append, List.map_append, hfirst hns.1 hfree hdraws s e ids hb a l l' hl,
      hrest hns.2 hfree' hdraws' _ e ids (hb.walk hns.1 hfree) a _ _ (hl.map (advanceAll_fst _))]
  itemsStopped kind ns k t h _ _ _ _ k' s e ids hb := absurd h hb.twin.stopped_left
  itemsNil kind k t _ _ _ _ _ k' s e ids _ _ v _ _ a p A _ := by
    rw [walkItems_nil, walkItems_nil]
    rfl
  itemsLeaf kind n rest k t _ hn hrest hns hitems hfree hdraws k' s e ids hb hk v hv hbegun a p A hA := by
    rw [List.all_cons, Bool.and_eq_true] at hitems
    rw [drawsItems_leaf hn] at hdraws
    rw [walkItems_leaf hn, walkItems_leaf hn, toNodesAll, toNodesAll, itemsInAll_append, itemsInAll_append,
      items_leaf hn, items_leaf hn, Option.map_some, Option.map_some, advanceAll_leaf hn, advanceAll_leaf hn]
    exact hrest hns.2 hitems.2 (List.append_eq_nil_iff.1 hfree).2 hdraws k' s e ids hb hk v hv hbegun a p A hA
  item kind attrs label content rest k t h hcontent hrest := shows_item d hd hsheet h hcontent hrest
  itemsOther kind tag attrs label content rest k t _ hli _ _ _ hitems := by
    rw [List.all_cons, Bool.and_eq_true] at hitems
    exact absurd (by simpa [isItem] using hitems.1) hli

theorem shows_of_free (hd : d.styled = true) (hsheet : sheet.Says draws') {n : Draft} (hn : n.Tidy)
    (hfree : headingLevels n = []) {t s : State} (hdraws : ∀ w ∈ draws d n t, w ∈ draws')
    (h : Beside d t s [] []) :
    (itemsInAll [] none (toNodes plainText table (walk d.asText n s).1)).map ListItem.text? =
        (itemsInAll [] none (toNodes plainText table' (walk d n t).1)).map sheet.drawn? ∧
      Beside d (walk d n t).2 (walk d.asText n s).2 [] [] :=
  ⟨(shows_cases d hd hsheet).walk n t hn hfree hdraws s [] [] h [] none none .none, h.walk hn hfree⟩

/-- Outside of lists, two walks through a document without headings in lists show the same labels if their parts
do, and they stay beside each other. -/
theorem shows_outside_cases (hd : d.styled = true) (hsheet : sheet.Says draws') : WalkCases d
    (fun n t => n.Tidy → n.BareLists → (∀ w ∈ draws d n t, w ∈ draws') → ∀ s, Beside d t s [] [] →
      (itemsInAll [] none (toNodes plainText table (walk d.asText n s).1)).map ListItem.text? =
          (itemsInAll [] none (toNodes plainText table' (walk d n t).1)).map sheet.drawn? ∧
        Beside d (walk d n t).2 (walk d.asText n s).2 [] [])
    (fun ns t => TidyAll ns → BareListsAll ns → (∀ w ∈ drawsAll d ns t, w ∈ draws') → ∀ s, Beside d t s [] [] →
      (itemsInAll [] none (toNodesAll plainText table (walkAll d.asText ns s).1)).map ListItem.text? =
          (itemsInAll [] none (toNodesAll plainText table' (walkAll d ns t).1)).map sheet.drawn? ∧
        Beside d (walkAll d ns t).2 (walkAll d.asText ns s).2 [] [])
    fun _ _ _ _ => True where
  stopped n t h _ _ _ s hb := absurd h hb.twin.stopped_left
  leaf n t _ hn _ _ _ s hb := by
    rw [walk_leaf hn, walk_leaf hn, items_leaf hn, items_leaf hn]
    exact ⟨rfl, hb⟩
  heading level tag attrs label children t h hk hn _ _ s hb := by
    obtain ⟨ha, -, rfl, -, hchildren⟩ := hn
    rw [walk_heading hb.twin.stopped_right hk, walk_heading h hk, items_inner (ne_li hk),
      items_inner (ne_li hk), hk]
    refine ⟨untouchedAll sheet children hchildren [] [] .none,
      twin_enterHeading hb.twin ha d false level tag,
      (enterHeading_steps d level tag attrs t).coherent hb.coherent, ?_⟩
    exact Scope.within_nil.2 (unstyled_enterHeading (Scope.within_nil.1 hb.within) level tag attrs)
  other tag attrs label children t h hk hchildren hn hbare hdraws s hb := by
    obtain ⟨ha, -, rfl, -, hn⟩ := hn
    rw [enterElement_of_undirected ha] at hchildren
    rw [draws_other h hk, enterElement_of_undirected ha] at hdraws
    rw [walk_other hb.twin.stopped_right hk, walk_other h hk, enterElement_of_undirected ha,
      enterElement_of_undirected ha]
    obtain ⟨hshows, hafter⟩ := hchildren hn hbare.2 hdraws _ (hb.resolve attrs)
    refine ⟨?_, hafter⟩
    by_cases hli : tag = "li"
    · subst hli
      rw [items_li, items_li]
      exact hshows
    · rw [items_inner hli, items_inner hli, hk]
      exact hshows
  bareList kind tag attrs attrs' label children t t' _ hk hlist _ _ hn hbare hdraws s hb :=
    shows_of_free d hd hsheet hn (headingLevels_list hk hlist hbare) hdraws hb
  list kind tag attrs attrs' label children l t t' _ hk hlist _ _ hn hbare hdraws s hb :=
    shows_of_free d hd hsheet hn (headingLevels_list hk hlist hbare) hdraws hb
  nil t _ _ _ s hb := by
    rw [walkAll_nil, walkAll_nil]
    exact ⟨rfl, hb⟩
  cons n rest t hfirst hrest hns hbare hdraws s hb := by
    rw [drawsAll] at hdraws
    obtain ⟨hdraws, hdraws'⟩ := List.forall_mem_append.1 hdraws
    obtain ⟨hshows, hmid⟩ := hfirst hns.1 hbare.1 hdraws s hb
    obtain ⟨hshows', hafter⟩ := hrest hns.2 hbare.2 hdraws' _ hmid
    rw [walkAll_cons, walkAll_cons, toNodesAll, toNodesAll, itemsInAll_append, itemsInAll_append,
      List.map_append, List.map_append, hshows]
    exact ⟨congrArg _ hshows', hafter⟩
  itemsStopped _ _ _ _ _ := trivial
  itemsNil _ _ _ _ := trivial
  itemsLeaf _ _ _ _ _ _ _ _ := trivial
  item _ _ _ _ _ _ _ _ _ _ := trivial
  itemsOther _ _ _ _ _ _ _ _ _ _ _ _ := trivial

/-- The labels of two walks through a document without headings in lists. -/
theorem walk_shows_outside (hd : d.styled = true) (hsheet : sheet.Says draws') (n : Draft)
    (hn : n.Tidy) (hbare : n.BareLists) {t s : State} (h : Beside d t s [] [])
    (hdraws : ∀ w ∈ draws d n t, w ∈ draws') :
    (itemsInAll [] none (toNodes plainText table (walk d.asText n s).1)).map ListItem.text? =
        (itemsInAll [] none (toNodes plainText table' (walk d n t).1)).map sheet.drawn? ∧
      Beside d (walk d n t).2 (walk d.asText n s).2 [] [] :=
  (shows_outside_cases d hd hsheet).walk n t hn hbare hdraws s h

theorem items_toNode (table : RefTable) (n : Draft) :
    (n.toNode plainText table).items = itemsInAll [] none (toNodes plainText table n) := by
  rw [toNode]
  split
  · rename_i m hm
    rw [hm, itemsInAll_singleton]
    rfl
  · have hroot : ElementKind.ofTag? rootTag = none := by decide
    rw [root, items, itemsIn, if_neg (by decide), hroot]
    rfl

end Draft

/-! ## Whole runs -/

namespace Labelling
open State Draft

/-- In a document without directives, whose lists hold only items and no headings, and which has none of
the classes of labels, the labels that the stylesheet draws are those of the run in the other mode. -/
theorem labels_shown (settings : Settings) (c : Template.Context) (doc : Node) {d : Defaults}
    (hsettings : (Defaults.ofSettings c settings).1 = .ok d) (hdirectives : doc.Undirected)
    (hbare : doc.BareLists) (honly : doc.OnlyItems) (hclass : doc.Unclassed) :
    let text := (Labelling.mk { settings with mode := .text } plainText).apply c doc
    let css := (Labelling.mk { settings with mode := .css } plainText).apply c doc
    ∃ report report', text.result = .ok report ∧ css.result = .ok report' ∧
      text.document.items.map ListItem.text? =
        css.document.items.map report'.stylesheet.drawn? := by
  intro text css
  rcases hread : Defaults.ofSettings c settings with ⟨result, c'⟩
  obtain rfl : result = .ok d := by
    rw [hread] at hsettings
    exact hsettings
  have hreadCss := Defaults.ofSettings_mode hread .css
  have hreadText := Defaults.ofSettings_mode hread .text
  have htidy := (tidy_ofNode doc hdirectives hclass honly).markRefs none
  have hlists := (bareLists_ofNode doc hbare).markRefs none
  have htwin := walk_twin { d with styled := true } false _ htidy.plain
    (State.Twin.mk (s := begin c' ((ofNode doc).markRefs none)) rfl rfl rfl)
  have htextRun : text = _ := apply_of_read (l := ⟨{ settings with mode := .text }, plainText⟩) hreadText doc
  have hcssRun : css = _ := apply_of_read (l := ⟨{ settings with mode := .css }, plainText⟩) hreadCss doc
  have hplaced := placed_draws (l := ⟨{ settings with mode := .css }, plainText⟩) hreadCss rfl doc
  have hinside := inside_draws (l := ⟨{ settings with mode := .css }, plainText⟩) hreadCss rfl hbare
    htwin.left
  have hsays := Stylesheet.says_draws hplaced (Draw.agree_of_inside hplaced hinside).2
  rw [← stylesheet_draws hreadCss rfl] at hsays
  have hbegin : Beside { d with styled := true } (begin c' ((ofNode doc).markRefs none))
      (begin c' ((ofNode doc).markRefs none)) [] [] :=
    ⟨⟨rfl, rfl, rfl⟩, coherent_begin hreadCss _, Scope.within_nil.2 fun id hid => by cases hid⟩
  rw [draws_of_read hreadCss] at hsays
  refine ⟨_, _, (congrArg Labelled.result htextRun).trans (result_of_running htwin.right),
    (congrArg Labelled.result hcssRun).trans (result_of_running htwin.left), ?_⟩
  rw [htextRun, hcssRun, items_toNode, items_toNode]
  exact (walk_shows_outside _ rfl hsays _ htidy hlists hbegin fun _ hw => hw).1

/-- Two lists, one inside of the other, below a section. -/
theorem labels_shown_nested :
    let settings : Settings := { headingLabels := some "1", orderedLabels := some "H.1,L.a" }
    let doc : Node := .root [.element "h1" [] [], .element "ol" [] [
      .element "li" [] [.element "ol" [] [.element "li" [] [], .element "li" [] []]],
      .element "li" [] []]]
    let css := (Labelling.mk { settings with mode := .css } plainText).apply {} doc
    ∃ report, css.result = .ok report ∧ css.document.items.map report.stylesheet.drawn? =
      [some "1.1", some "1.1.a", some "1.1.b", some "1.2"] := by
  intro settings doc css
  have hread : (Defaults.ofSettings {} settings).1.toOption.isSome = true := by decide +kernel
  cases hsettings : (Defaults.ofSettings {} settings).1 with
  | error e =>
    rw [hsettings] at hread
    cases hread
  | ok d =>
    obtain ⟨-, report, -, hresult, hlabels⟩ := labels_shown settings {} doc hsettings (by decide)
      (by decide) (by decide) (by decide)
    refine ⟨report, hresult, hlabels.symm.trans ?_⟩
    decide +kernel

end Labelling
end Rubric
