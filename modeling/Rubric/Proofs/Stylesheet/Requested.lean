import Rubric.Proofs.Stylesheet.Inert
import Rubric.Proofs.Stylesheet.Labels
import Rubric.Proofs.Stylesheet.Overrides

/-!
# The walk over one list with requests

* `State.styleKey` : the key that a template has in a state, for a list that stands alone;
* `ListState.Marks` : a list whose last label is known; `ListState.Writes` : a label by counters, with what it
  adds;
* `marks_drawItem` : the next label by counters, with its rules, its item and its list;
* `walkItems_text` : the labels of a list as text;
* `walkItems_marks` : the rules, items and classes of a list with counters.
-/

namespace Rubric

namespace State
variable {d : Defaults} {s s' : State} {id : SeriesId} {source : String} {n : Nat} {v : Series}

/-- The key of a template for a list that stands alone. -/
def styleKey (s : State) (source : String) : Nat :=
  ((s.context.sources.idxOf? source).bind fun n =>
    s.scope.roster.keys.idxOf? ⟨(n, 0), .none, true⟩).getD 0

/-- Some series that counters draw has labelled items by a template. -/
def Styles (s : State) (source : String) : Prop := ∃ v, s.Serves v source ∧ v.styled = true

theorem Serves.styleKey_eq (h : s.Serves v source) (hstyled : v.styled = true) :
    s.styleKey source = v.key := by
  obtain ⟨t, n, -, htemplate, hsource⟩ := h.template
  have hkey := h.key
  rw [htemplate, hstyled] at hkey
  rw [styleKey, hsource, Option.bind_some]
  exact congrArg (Option.getD · 0) hkey

theorem Serves.place (h : s.Serves v source) (hstyled : v.styled = true) :
    ∃ n, s.context.sources[n]? = some source ∧
      s.scope.roster.keys[v.key]? = some ⟨(n, 0), .none, true⟩ := by
  obtain ⟨t, n, -, htemplate, hsource⟩ := h.template
  have hkey := h.key
  rw [htemplate, hstyled] at hkey
  obtain ⟨hlt, heq, -⟩ := List.idxOf?_eq_some_iff.1 hsource
  obtain ⟨hlt', heq', -⟩ := List.idxOf?_eq_some_iff.1 hkey
  refine ⟨n, ?_, ?_⟩
  · rw [List.getElem?_eq_getElem hlt]
    exact congrArg some heq
  · rw [List.getElem?_eq_getElem hlt']
    exact congrArg some heq'

theorem styleKey_injective {source' : String} (h : s.Styles source) (h' : s.Styles source')
    (heq : s.styleKey source = s.styleKey source') : source = source' := by
  obtain ⟨v, hv, hstyled⟩ := h
  obtain ⟨v', hv', hstyled'⟩ := h'
  obtain ⟨n, hsource, hkey⟩ := hv.place hstyled
  obtain ⟨n', hsource', hkey'⟩ := hv'.place hstyled'
  rw [hv.styleKey_eq hstyled, hv'.styleKey_eq hstyled'] at heq
  rw [heq, hkey'] at hkey
  cases hkey
  rw [hsource'] at hsource
  exact (Option.some.inj hsource).symm

theorem Follows.content (h : Follows d s id source n) (hd : d.styled = true) :
    ∃ t, s.scope.roster.get? id = some t ∧ t.styled = true ∧ t.key = s.styleKey source ∧
      t.isNumbered = (Segment.ofSource source).isNumbered ∧
      s.scope.roster.content id = (Segment.ofSource source).content t.key := by
  obtain ⟨v, hv, hstyled, -, hparent, hsegment, hserves⟩ := h.segment
  rw [hd] at hstyled
  have hcore : s.scope.roster.contentCore id =
      (Segment.ofSource source).style.elim [] fun style => [.counter v.key style.name] := by
    rw [← hsegment]
    cases hstyle : v.segment.style with
    | none => exact Roster.contentCore_literal hv hstyle
    | some style => exact (Roster.contentCore_root hv hstyle hstyled hparent).1
  have hcontent : s.scope.roster.content id = (Segment.ofSource source).content v.key := by
    rw [Roster.content_eq, hv, Option.elim_some, hcore, hsegment, Segment.content]
  have hkey := hserves.styleKey_eq hstyled
  obtain ⟨t, ht, rfl⟩ := Roster.get?_of_view? hv
  exact ⟨t, ht, hstyled, hkey.symm, congrArg Segment.isNumbered hsegment, hcontent⟩

end State

/-! ## The next label -/

namespace Walk
open State ListLabel
variable {d : Defaults} {s : State} {k : ListState} {p : ListLabel} {K : String → Nat}

/-- A list whose last label is known. -/
structure ListState.Marks (k : ListState) (K : String → Nat) (p : ListLabel) : Prop where
  fresh : p.number = 0 → k.Fresh ∧ p.outer = none
  styling : 0 < p.number → k.container.styling = some ⟨K p.first, k.series, p.outer.isSome⟩
  classes : 0 < p.number → k.classes = [Css.labelledClass, Css.styleName (K p.first)]

/-- A label by counters, with what it adds to the stylesheet, its item and its list. -/
structure ListState.Writes (k : ListState) (K : String → Nat) (attrs : Attrs) (id : SeriesId)
    (p : ListLabel) (w : Drawing × ContainerState) : Prop where
  rules : w.1.rules = p.rules K
  attrs : w.1.attrs = p.mark K attrs
  label : w.1.label = none
  marks : ListState.Marks ⟨id, w.2, k.classes ++ w.1.containerClasses⟩ K p

section
variable {q : ListLabel} {roster : Roster} {id : SeriesId} {t : Series}

theorem writes_first (hfresh : k.Fresh) (hnumber : q.number = 1) (houter : q.outer = none)
    (hkey : t.key = K q.source) (hnumbered : t.isNumbered = q.isNumbered)
    (hcontent : roster.content id = (Segment.ofSource q.source).content t.key) (attrs : Attrs) :
    k.Writes K attrs id q (roster.drawStyled id t k.container attrs) := by
  obtain ⟨hstyling, hclasses⟩ := hfresh
  have hfirst : q.first = q.source := by rw [first, houter, Option.getD_none]
  rw [Roster.drawStyled, hstyling]
  refine ⟨?_, ?_, rfl, fun hzero => ?_, fun _ => ?_, fun _ => ?_⟩
  · rw [rules, if_pos hnumber, houter, name?, houter, hfirst, ← hkey, ← hnumbered, hcontent]
    rfl
  · rw [mark, houter]
    rfl
  · rw [hnumber] at hzero
    cases hzero
  · rw [hfirst, houter, ← hkey]
    rfl
  · rw [hclasses, hfirst, ← hkey]
    rfl

theorem writes_next (hm : k.Marks K p) (hpos : 0 < p.number) (hkey : t.key = K (p.after .next).source)
    (attrs : Attrs) :
    k.Writes K attrs k.series (p.after .next) (roster.drawStyled k.series t k.container attrs) := by
  have hstyling := hm.styling hpos
  have hne : (p.after .next).number ≠ 1 := by
    show p.number + 1 ≠ 1
    omega
  rw [Roster.drawStyled, hstyling]
  simp only [if_true]
  refine ⟨?_, ?_, rfl, fun hzero => absurd hzero (Nat.succ_ne_zero _), fun _ => hstyling, fun _ => ?_⟩
  · rw [rules, if_neg hne]
  · rw [mark, if_neg hne, hkey]
    show (if p.outer.isSome then _ else _) = if p.outer.isNone then _ else _
    cases p.outer <;> rfl
  · rw [List.append_nil]
    exact hm.classes hpos

theorem writes_restart {source : String} (hm : k.Marks K p) (hpos : 0 < p.number) (hne : k.series ≠ id)
    (hkey : t.key = K source) (hnumbered : t.isNumbered = (p.after (.restart source)).isNumbered)
    (hcontent : roster.content id = (Segment.ofSource source).content t.key) (attrs : Attrs) :
    k.Writes K attrs id (p.after (.restart source)) (roster.drawStyled id t k.container attrs) := by
  have houter : (p.after (.restart source)).outer = some p.first := if_neg (Nat.ne_of_gt hpos)
  have hfirst : (p.after (.restart source)).first = p.first := by
    rw [first, houter, Option.getD_some]
  have hone : (p.after (.restart source)).number = 1 := rfl
  have hsource : (p.after (.restart source)).source = source := rfl
  rw [Roster.drawStyled, hm.styling hpos]
  simp only [if_neg hne]
  refine ⟨?_, ?_, rfl, fun hzero => absurd hzero Nat.one_ne_zero, fun _ => ?_, fun _ => ?_⟩
  · rw [rules, if_pos hone, houter, name?, houter, hfirst, hsource, ← hkey, ← hnumbered, hcontent]
    rfl
  · rw [mark, houter, hsource, ← hkey]
    rfl
  · rw [hfirst, houter]
    rfl
  · rw [List.append_nil, hfirst]
    exact hm.classes hpos

/-- The next label of a list by counters. -/
theorem writes_drawStyled {r : Request} (hr : r ≠ .silent) (hm : k.Marks K p) (hid : id = k.series ↔ r = .next)
    (hkey : t.key = K (p.after r).source) (hnumbered : t.isNumbered = (p.after r).isNumbered)
    (hcontent : roster.content id = (Segment.ofSource (p.after r).source).content t.key) (attrs : Attrs) :
    k.Writes K attrs id (p.after r) (roster.drawStyled id t k.container attrs) := by
  rcases Nat.eq_zero_or_pos p.number with hzero | hpos
  · obtain ⟨hfresh, houter⟩ := hm.fresh hzero
    obtain ⟨hnumber, hnone⟩ : (p.after r).number = 1 ∧ (p.after r).outer = none := by
      cases r with
      | silent => exact absurd rfl hr
      | next => exact ⟨by rw [after, hzero], houter⟩
      | restart source => exact ⟨rfl, if_pos hzero⟩
    exact writes_first hfresh hnumber hnone hkey hnumbered hcontent attrs
  · cases r with
    | silent => exact absurd rfl hr
    | next =>
      obtain rfl := hid.2 rfl
      exact writes_next hm hpos hkey attrs
    | restart source =>
      have hne : k.series ≠ id := fun h => by simpa using hid.1 h.symm
      exact writes_restart hm hpos hne hkey hnumbered hcontent attrs

end

/-- The next label of a list by counters, with what it adds to its item, its list and the stylesheet. -/
theorem marks_drawItem (hd : d.styled = true) {r : Request} (hr : r ≠ .silent) (hm : k.Marks K p)
    {id : SeriesId} {n : Nat} (hid : id = k.series ↔ r = .next)
    (h : Follows d s id (p.after r).source n) (attrs : Attrs)
    (hK : (drawItem d { k with series := id } attrs s).1.state.styleKey (p.after r).source =
      K (p.after r).source) :
    let w := drawItem d { k with series := id } attrs s
    w.1.attrs = (p.after r).mark K attrs ∧ w.1.label = none ∧ w.2.Marks K (p.after r) ∧
      w.1.state.stylesheet = s.stylesheet.addAll ((p.after r).rules K) := by
  obtain ⟨hafter, -⟩ := Follows.draw (l := { k with series := id }) h attrs
  obtain ⟨t, ht, hstyled, hkey, hnumbered, hcontent⟩ := hafter.content hd
  rw [series_drawItem] at ht hcontent
  rw [hK] at hkey
  obtain ⟨hrules, hattrs, hlabel, hmarks⟩ := writes_drawStyled hr hm hid hkey hnumbered hcontent attrs
  rw [scope_drawItem] at ht hrules hattrs hlabel hmarks
  have hdraw : (s.increment id).scope.roster.drawItem d.styled id k.container attrs =
      (s.scope.increment id).roster.drawStyled id t k.container attrs := by
    rw [scope_increment, Roster.drawItem, ht, hd]
    simp [hstyled]
  simp only [drawItem, hdraw]
  exact ⟨hattrs, hlabel, hmarks, by rw [← hrules]; simp⟩

end Walk

namespace State
open Walk
variable {d : Defaults} {s last : State} {id : SeriesId} {source : String} {n : Nat}

/-- The key of a template stays to the end of a run. -/
theorem Follows.styleKey_eq (h : Follows d s id source n) (hd : d.styled = true)
    (hlast : Steps d s last) : s.styleKey source = last.styleKey source ∧ last.Styles source := by
  obtain ⟨v, -, hstyled, rfl, hserves⟩ := h.series
  rw [hd] at hstyled
  have hserves' := hserves.mono hlast v.count
  exact ⟨(hserves.styleKey_eq hstyled).trans (hserves'.styleKey_eq hstyled).symm, _, hserves', hstyled⟩

theorem Follows.finish {l : ListState} (h : Follows d s l.series source n) {content : List Draft}
    (hcontent : Draft.InertAll content) :
    Follows d (leaveItem l (Draft.walkAll d content s).2) l.series source n ∧
      (leaveItem l (Draft.walkAll d content s).2).stylesheet = s.stylesheet := by
  obtain ⟨-, hsame⟩ := Draft.walkAll_inert d content hcontent s
  have hinside := h.keep (Draft.walkAll_steps d content s) (hsame.failure.trans h.running)
    (by rw [hsame.scope])
  obtain ⟨hafter, hsheet⟩ := hinside.leave
  exact ⟨hafter, hsheet.trans hsame.stylesheet⟩

end State

/-! ## The items of a list -/

namespace Draft
open Node State Walk ListLabel

/-- An item without lists and headings in it, or text. -/
def Flat : Draft → Prop
  | element tag _ label content => tag = "li" ∧ label = none ∧ InertAll content
  | _ => True

def itemAttrs (ns : List Draft) : List Attrs :=
  ns.filterMap fun
    | element _ attrs _ _ => some attrs
    | _ => none

theorem itemAttrs_leaf {n : Draft} (hn : n.Leaf) (rest : List Draft) :
    itemAttrs (n :: rest) = itemAttrs rest := by
  cases n with
  | text content => rfl
  | split target pieces => rfl
  | element => exact (hn _ _ _ _ rfl).elim

theorem itemAttrs_element (tag : String) (attrs : Attrs) (label : Option String) (content rest : List Draft) :
    itemAttrs (element tag attrs label content :: rest) = attrs :: itemAttrs rest := rfl

variable {d : Defaults} {table : RefTable} {around : List ListPlace} {place : ListPlace}

theorem items_flat {content : List Draft} (h : InertAll content) (attrs : Attrs)
    (label : Option String) (rest : List Draft) :
    itemsInAll around (some place) (toNodesAll plainText table (element "li" attrs label content :: rest)) =
      ⟨advance (.element "li" attrs []) place :: around, attrs,
          (label.map (labelSpan plainText)).toList ++ toNodesAll plainText table content⟩ ::
        itemsInAll around (some (advanceAll (toNodes plainText table (element "li" attrs label content))
          place)) (toNodesAll plainText table rest) := by
  rw [toNodesAll, itemsInAll_append, items_li, h.items, List.append_nil]
  rfl

theorem labelOf_label {content : List Draft} (h : InertAll content) (label : Option String) :
    labelOf ((label.map (labelSpan plainText)).toList ++ toNodesAll plainText table content) = label := by
  cases label with
  | none => exact h.labelOf
  | some label => exact labelOf_labelSpan label _

/-- The labels of a list as text. -/
theorem walkItems_text (hd : d.styled = false) (kind : ElementKind) {ns : List Draft}
    (hns : ∀ n ∈ ns, n.Flat)
    (hparse : ∀ a ∈ itemAttrs ns, ∀ source, a.request = .restart source →
      ∃ t, Template.parse source = .ok t)
    {k : ListState} {s : State} {p : ListLabel} (h : Follows d s k.series p.source p.number) :
    (walkItems d kind ns k s).2.2.failure = none ∧
      ∀ (around : List ListPlace) (table : RefTable) (place : ListPlace),
      (itemsInAll around (some place) (toNodesAll plainText table (walkItems d kind ns k s).1)).map
          ListItem.text? =
        (p.labels ((itemAttrs ns).map Attrs.request)).map
          (Option.map fun l => (Segment.ofSource l.source).shown l.number) := by
  induction ns generalizing k s p with
  | nil =>
    rw [walkItems_nil]
    exact ⟨h.running, fun _ _ _ => rfl⟩
  | cons n rest ih =>
    have hrest := fun m hm => hns m (List.mem_cons_of_mem _ hm)
    rcases n.leaf_or_element with hn | ⟨tag, attrs, label, content, rfl⟩
    · rw [itemAttrs_leaf hn] at hparse ⊢
      rw [walkItems_leaf hn]
      obtain ⟨hrun, hitems⟩ := ih hrest hparse h
      refine ⟨hrun, fun around table place => ?_⟩
      rw [toNodesAll, itemsInAll_append, items_leaf hn]
      exact hitems ..
    · obtain ⟨rfl, rfl, hcontent⟩ := hns _ (List.mem_cons_self ..)
      have hparse' := fun a ha => hparse a (List.mem_cons_of_mem _ ha)
      rw [walkItems_item h.stopped]
      have hattrs : itemAttrs (element "li" attrs none content :: rest) = attrs :: itemAttrs rest := rfl
      rw [hattrs, List.map_cons]
      dsimp only
      by_cases hr : attrs.request = .silent
      · obtain ⟨s', henter, -, hfollows⟩ := h.silent hr kind
        obtain ⟨hnext, -⟩ := hfollows.finish hcontent
        obtain ⟨hrun, hitems⟩ := ih hrest hparse' hnext
        have hinside := (walkAll_inert d content hcontent s').1
        rw [henter, hr, labels_silent]
        refine ⟨hrun, fun around table place => ?_⟩
        rw [items_flat hinside, List.map_cons, List.map_cons, ListItem.text?, labelOf_label hinside,
          hitems]
        rfl
      · obtain ⟨id, s', n, -, henter, -, hnumber, hfollows⟩ :=
          h.label hr (hparse attrs (List.mem_cons_self ..)) kind
        obtain ⟨hdrawn, htext⟩ := Follows.draw (l := { k with series := id }) hfollows attrs.undirected
        rw [hnumber] at hdrawn htext
        obtain ⟨hnext, -⟩ := hdrawn.finish hcontent
        obtain ⟨hrun, hitems⟩ := ih hrest hparse' hnext
        obtain ⟨-, hlabel⟩ := drawItem_text hd { k with series := id } attrs.undirected s'
        have hinside := (walkAll_inert d content hcontent
          (drawItem d { k with series := id } attrs.undirected s').1.state).1
        rw [henter, labels_cons hr]
        refine ⟨hrun, fun around table place => ?_⟩
        rw [items_flat hinside, List.map_cons, List.map_cons, ListItem.text?, labelOf_label hinside,
          hitems, hlabel, Option.map_some, ← htext, scope_drawItem]
        rfl

/-- What counters make of a list whose labels come after `p`, in a run that ends with `last`. -/
structure Marked (last : State) (p : ListLabel) (attrs : List Attrs) (s : State)
    (w : List Draft × ListState × State) : Prop where
  running : w.2.2.failure = none
  stylesheet : w.2.2.stylesheet = s.stylesheet.addAll
    ((p.labels (attrs.map Attrs.request)).reduceOption.flatMap (rules last.styleKey))
  begun : 0 < p.number → w.2.1.classes = [Css.labelledClass, Css.styleName (last.styleKey p.first)]
  classes : ∀ l ∈ (p.labels (attrs.map Attrs.request)).reduceOption,
    w.2.1.classes = [Css.labelledClass, Css.styleName (last.styleKey l.first)]
  styles : ∀ l ∈ (p.labels (attrs.map Attrs.request)).reduceOption, last.Styles l.source
  items : ∀ (around : List ListPlace) (table : RefTable) (place : ListPlace),
    (itemsInAll around (some place) (toNodesAll plainText table w.1)).map
        (fun i => (i.lists.head?.map Prod.fst, i.attrs)) =
      List.zipWith (fun o a => (some place.1, markItem last.styleKey o a.undirected))
        (p.labels (attrs.map Attrs.request)) attrs

namespace Marked
variable {last s s' : State} {p : ListLabel} {as : List Attrs} {w : List Draft × ListState × State}

theorem leaf (h : Marked last p as s w) {n : Draft} (hn : n.Leaf) : Marked last p as s (n :: w.1, w.2) where
  running := h.running
  stylesheet := h.stylesheet
  begun := h.begun
  classes := h.classes
  styles := h.styles
  items around table place := by
    rw [toNodesAll, itemsInAll_append, items_leaf hn, Option.map_some, List.nil_append, h.items, advanceAll_fst]

theorem silent (h : Marked last p as s' w) {attrs : Attrs} (hr : attrs.request = .silent)
    (hsheet : s'.stylesheet = s.stylesheet) {content : List Draft} (hcontent : InertAll content) :
    Marked last p (attrs :: as) s
      (element "li" (attrs.undirected.addClass Css.noLabelClass) none content :: w.1, w.2) := by
  have hlabels : p.labels ((attrs :: as).map Attrs.request) = none :: p.labels (as.map Attrs.request) := by
    rw [List.map_cons, hr, labels_silent]
  refine ⟨h.running, ?_, h.begun, ?_, ?_, fun around table place => ?_⟩
  · rw [hlabels, List.reduceOption_cons_of_none, h.stylesheet, hsheet]
  · rw [hlabels, List.reduceOption_cons_of_none]
    exact h.classes
  · rw [hlabels, List.reduceOption_cons_of_none]
    exact h.styles
  · rw [hlabels, items_flat hcontent, List.map_cons, h.items, advanceAll_fst, List.zipWith_cons_cons]
    simp [advance_fst, markItem]

theorem label {attrs : Attrs} (h : Marked last (p.after attrs.request) as s' w) (hr : attrs.request ≠ .silent)
    (hsheet : s'.stylesheet = s.stylesheet.addAll ((p.after attrs.request).rules last.styleKey))
    (hstyles : last.Styles (p.after attrs.request).source) {content : List Draft} (hcontent : InertAll content) :
    Marked last p (attrs :: as) s
      (element "li" ((p.after attrs.request).mark last.styleKey attrs.undirected) none content :: w.1, w.2) := by
  have hpos := number_after hr p
  have hlabels : p.labels ((attrs :: as).map Attrs.request) =
      some (p.after attrs.request) :: (p.after attrs.request).labels (as.map Attrs.request) := by
    rw [List.map_cons, labels_cons hr]
  refine ⟨h.running, ?_, fun hp => ?_, ?_, ?_, fun around table place => ?_⟩
  · rw [hlabels, List.reduceOption_cons_of_some, List.flatMap_cons, h.stylesheet, hsheet,
      Stylesheet.addAll_append]
  · rw [h.begun hpos, first_after hp]
  · rw [hlabels, List.reduceOption_cons_of_some, List.forall_mem_cons]
    exact ⟨h.begun hpos, h.classes⟩
  · rw [hlabels, List.reduceOption_cons_of_some, List.forall_mem_cons]
    exact ⟨hstyles, h.styles⟩
  · rw [hlabels, items_flat hcontent, List.map_cons, h.items, advanceAll_fst, List.zipWith_cons_cons]
    simp [advance_fst, markItem]

end Marked

/-- The items of a list with counters. -/
theorem walkItems_marks (hd : d.styled = true) (kind : ElementKind) {last : State} {ns : List Draft}
    (hns : ∀ n ∈ ns, n.Flat)
    (hparse : ∀ a ∈ itemAttrs ns, ∀ source, a.request = .restart source →
      ∃ t, Template.parse source = .ok t)
    {k : ListState} {s : State} {p : ListLabel} (h : Follows d s k.series p.source p.number)
    (hm : k.Marks last.styleKey p) (hlast : Steps d (walkItems d kind ns k s).2.2 last) :
    Marked last p (itemAttrs ns) s (walkItems d kind ns k s) := by
  induction ns generalizing k s p with
  | nil =>
    rw [walkItems_nil]
    exact ⟨h.running, rfl, hm.classes, by simp [itemAttrs, labels, List.reduceOption],
      by simp [itemAttrs, labels, List.reduceOption], fun _ _ _ => rfl⟩
  | cons n rest ih =>
    have hrest := fun m hm => hns m (List.mem_cons_of_mem _ hm)
    rcases n.leaf_or_element with hn | ⟨tag, attrs, label, content, rfl⟩
    · rw [itemAttrs_leaf hn] at hparse ⊢
      rw [walkItems_leaf hn] at hlast ⊢
      exact (ih hrest hparse h hm hlast).leaf hn
    · obtain ⟨rfl, rfl, hcontent⟩ := hns _ (List.mem_cons_self ..)
      have hparse' := fun a ha => hparse a (List.mem_cons_of_mem _ ha)
      rw [walkItems_item h.stopped] at hlast ⊢
      rw [itemAttrs_element]
      dsimp only at hlast ⊢
      by_cases hr : attrs.request = .silent
      · obtain ⟨s', henter, hsheet, hfollows⟩ := h.silent hr kind
        obtain ⟨hnext, hsheet'⟩ := hfollows.finish hcontent
        rw [henter] at hlast ⊢
        exact (ih hrest hparse' hnext hm hlast).silent hr (hsheet'.trans hsheet)
          (walkAll_inert d content hcontent s').1
      · obtain ⟨id, s', n, hid, henter, hsheet, hnumber, hfollows⟩ :=
          h.label hr (hparse attrs (List.mem_cons_self ..)) kind
        rw [henter] at hlast ⊢
        obtain ⟨hdrawn, -⟩ := Follows.draw (l := { k with series := id }) hfollows attrs.undirected
        rw [hnumber] at hdrawn
        obtain ⟨hnext, hsheet'⟩ := hdrawn.finish hcontent
        have hsteps := (walkAll_steps d content _).trans ((leaveItem_steps d _ _).trans
          ((walkItems_steps d kind rest _ _).trans hlast))
        obtain ⟨hkey, hstyles⟩ := hdrawn.styleKey_eq hd hsteps
        obtain ⟨hmark, hlabel, hmarks, hadded⟩ :=
          marks_drawItem hd hr hm hid hfollows attrs.undirected hkey
        rw [hmark, hlabel]
        exact (ih hrest hparse' hnext hmarks hlast).label hr (by rw [hsheet', hadded, hsheet]) hstyles
          (walkAll_inert d content hcontent (drawItem d { k with series := id } attrs.undirected s').1.state).1

end Draft
end Rubric
