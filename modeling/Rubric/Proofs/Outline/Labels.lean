import Mathlib
import Rubric.Proofs.Labelling.Steps
import Rubric.Proofs.Outline.Headings
import Rubric.Proofs.Outline.Numbering

/-!
# The labels of headings

* `HeadingScheme.Numbers` : a walk has put the labels of the scheme in front of the headings, and
  changed no other heading;
* `walk_numbers` : a walk over a plain draft does;
* `Labelling.headings_numbered` : the headings of a labelled document are those of the document, each
  with the label that the scheme of the settings gives it.
-/

namespace Rubric

namespace HeadingScheme
open Draft Node Walk
variable {H : HeadingScheme} {past : Outline} {d : Defaults} {s s' : State}

/-- The nodes `after` are `before` with the labels of the scheme in front of the headings, and the
state `s` tracks the sections behind them. -/
structure Numbers (H : HeadingScheme) (past : Outline) (before after : List Draft) (s : State) :
    Prop where
  tracks : H.Tracks ((headingLevelsAll before).reverse ++ past) s.scope
  running : s.failure = none
  headings : ∀ table, outerHeadingsAll (toNodesAll plainText table after) =
    List.zipWith labelled (H.labels past (headingLevelsAll before))
      (outerHeadingsAll (toNodesAll plainText table before))

theorem Numbers.nil (h : H.Tracks past s.scope) (hs : s.failure = none) :
    H.Numbers past [] [] s := ⟨h, hs, fun _ => rfl⟩

theorem Numbers.cons {n n' : Draft} {rest rest' : List Draft} (h : H.Numbers past [n] [n'] s)
    (h' : H.Numbers ((headingLevels n).reverse ++ past) rest rest' s') :
    H.Numbers past (n :: rest) (n' :: rest') s' where
  tracks := by
    have := h'.tracks
    rwa [headingLevelsAll, List.reverse_append, List.append_assoc]
  running := h'.running
  headings table := by
    have hn := h.headings table
    simp only [toNodesAll, headingLevelsAll, List.append_nil] at hn
    have hlength : (H.labels past (headingLevels n)).length =
        (outerHeadingsAll (toNodes plainText table n)).length := by
      rw [length_labels, ← levels_toNodes table n, List.length_map]
    rw [toNodesAll, outerHeadingsAll_append, hn, h'.headings table, headingLevelsAll, labels_append,
      toNodesAll, outerHeadingsAll_append, List.zipWith_append hlength]

theorem Numbers.single {n n' : Draft}
    (htracks : H.Tracks ((headingLevels n).reverse ++ past) s.scope) (hs : s.failure = none)
    (hheadings : ∀ table, outerHeadingsAll (toNodes plainText table n') =
      List.zipWith labelled (H.labels past (headingLevels n))
        (outerHeadingsAll (toNodes plainText table n))) : H.Numbers past [n] [n'] s where
  tracks := by rwa [headingLevelsAll, headingLevelsAll, List.append_nil]
  running := hs
  headings table := by
    rw [toNodesAll, toNodesAll, headingLevelsAll, headingLevelsAll]
    simpa [toNodesAll] using hheadings table

theorem Numbers.tracks_single {n n' : Draft} (h : H.Numbers past [n] [n'] s) :
    H.Tracks ((headingLevels n).reverse ++ past) s.scope := by
  have htracks := h.tracks
  rwa [headingLevelsAll, headingLevelsAll, List.append_nil] at htracks

theorem Numbers.element {children children' : List Draft} {tag : String}
    (h : H.Numbers past children children' s)
    (hk : ∀ l, ElementKind.ofTag? tag ≠ some (.heading l)) (attrs attrs' : Attrs)
    (label label' : Option String) (hscope : H.Tracks ((headingLevelsAll children).reverse ++ past)
      s'.scope) (hs : s'.failure = none) :
    H.Numbers past [.element tag attrs label children] [.element tag attrs' label' children'] s' := by
  refine Numbers.single ?_ hs fun table => ?_
  · rwa [headingLevels_other hk]
  · have := h.headings table
    simpa [toNodes, outerHeadingsAll, outerHeadings_other hk, headingLevels_other hk] using this

theorem Numbers.inert {n : Draft} (hn : headingLevels n = []) (h : H.Tracks past s.scope)
    (hs : s.failure = none) : H.Numbers past [n] [n] s := by
  refine Numbers.single (by simpa [hn] using h) hs fun table => ?_
  have hlevels := levels_toNodes table n
  rw [hn, List.map_eq_nil_iff] at hlevels
  rw [hlevels, hn]
  rfl

theorem Tracks.enterList (h : H.Tracks past s.scope) {kind : ElementKind} (hlist : kind.isList)
    (template : Template.Instance) (styled : Bool) :
    let scope := s.scope.started kind template
      (template.template.segment.parent.bind s.scope.find?) styled
    H.Tracks past scope ∧ scope.roster.Lists s.scope.roster.series.size := by
  have hk := ElementKind.level?_of_isList hlist
  exact ⟨h.start_list hk template _ styled fun _ => Scope.mem_of_selected, _,
    by rw [Scope.view?_started, if_pos rfl], hk⟩

/-- An item of a list has the headings in its content. What ends with it leaves the sections alone. -/
theorem Numbers.item {content content' : List Draft} {l : ListState} (h : H.Numbers past content content' s)
    (hl : s.scope.roster.Lists l.series) (attrs attrs' : Attrs) (label label' : Option String) :
    H.Numbers past [.element "li" attrs label content] [.element "li" attrs' label' content'] (leaveItem l s) := by
  rw [leaveItem_of_running h.running]
  exact h.element not_heading_li _ _ _ _ (h.tracks.endBelow_list hl.level?) h.running

/-- Each part of a walk over plain drafts numbers their headings by the scheme. -/
theorem numbers_cases (hd : H.Governs d) : WalkCases d
    (fun n s => n.Plain → s.failure = none → ∀ past, H.Tracks past s.scope →
      H.Numbers past [n] [(walk d n s).1] (walk d n s).2)
    (fun ns s => PlainAll ns → s.failure = none → ∀ past, H.Tracks past s.scope →
      H.Numbers past ns (walkAll d ns s).1 (walkAll d ns s).2)
    fun kind ns l s => PlainAll ns → s.failure = none → s.scope.roster.Lists l.series → ∀ past,
      H.Tracks past s.scope → H.Numbers past ns (walkItems d kind ns l s).1 (walkItems d kind ns l s).2.2 ∧
        (walkItems d kind ns l s).2.2.scope.roster.Lists (walkItems d kind ns l s).2.1.series where
  stopped n s h _ hs := absurd h (State.not_isStopped_iff.2 hs)
  leaf n s _ hn _ hs past h := by
    rw [walk_leaf hn]
    exact .inert (headingLevels_leaf hn) h hs
  heading level tag attrs label children s hrun hk hplain hs past h := by
    obtain ⟨hattrs, rfl, -⟩ := hplain
    obtain ⟨hkeep, hlabel, htracks, hfailure⟩ := h.enterHeading hd hattrs level tag
    rw [walk_heading hrun hk, hkeep, hlabel]
    refine Numbers.single ?_ (hfailure.trans hs) fun table => ?_
    · rw [headingLevels_heading hk]
      exact htracks
    · rw [headingLevels_heading hk]
      simp [toNodes, outerHeadingsAll, outerHeadings_heading hk, labels, labelled, withLabel, labelSpan_plainText]
  other tag attrs label children s hrun hk hchildren hplain hs past h := by
    obtain ⟨hattrs, -, hplain⟩ := hplain
    rw [enterElement_of_undirected hattrs] at hchildren
    rw [walk_other hrun hk, enterElement_of_undirected hattrs]
    have hnum := hchildren hplain (by simpa using hs) past (by simpa using h)
    exact hnum.element (not_heading_of_none hk) _ _ _ _ hnum.tracks hnum.running
  bareList kind tag attrs attrs' label children s s' hrun hk hlist he hchildren hplain hs past h := by
    obtain ⟨hattrs, -, hplain⟩ := hplain
    obtain ⟨-, rfl, rfl⟩ := enterList_bare_of_undirected hattrs he
    rw [walk_bareList hrun hk hlist he]
    have hnum := hchildren hplain (by simpa using hs) past (by simpa using h)
    exact hnum.element (not_heading_of_list hk hlist) _ _ _ _ hnum.tracks hnum.running
  list kind tag attrs attrs' label children l s s' hrun hk hlist he hchildren hplain hs past h := by
    obtain ⟨hattrs, -, hplain⟩ := hplain
    obtain ⟨template, -, rfl, rfl, rfl⟩ := enterList_started_of_undirected hattrs he
    obtain ⟨htracks, hlists⟩ := h.enterList hlist template d.styled
    obtain ⟨hnum, hseries⟩ := hchildren hplain (by simpa using hs) (by simpa using hlists) past
      (by simpa using htracks)
    rw [walk_list hrun hk hlist he, leaveList_of_running hnum.running]
    exact hnum.element (not_heading_of_list hk hlist) _ _ _ _ (hnum.tracks.remove_list hseries.level?)
      hnum.running
  nil s _ hs past h := by
    rw [walkAll_nil]
    exact .nil h hs
  cons n rest s hn hrest hplain hs past h := by
    rw [walkAll_cons]
    have hfirst := hn hplain.1 hs past h
    exact hfirst.cons (hrest hplain.2 hfirst.running _ hfirst.tracks_single)
  itemsStopped kind ns l s h _ hs := absurd h (State.not_isStopped_iff.2 hs)
  itemsNil kind l s _ _ hs hl past h := by
    rw [walkItems_nil]
    exact ⟨.nil h hs, hl⟩
  itemsLeaf kind n rest l s _ hn hrest hplain hs hl past h := by
    rw [walkItems_leaf hn]
    have hfirst : H.Numbers past [n] [n] s := .inert (headingLevels_leaf hn) h hs
    obtain ⟨hrest, hseries⟩ := hrest hplain.2 hs hl _ hfirst.tracks_single
    exact ⟨hfirst.cons hrest, hseries⟩
  item kind attrs label content rest l s hrun hcontent hrest hplain hs hl past h := by
    obtain ⟨⟨hattrs, -, hinner⟩, hplain⟩ := hplain
    rw [enterItem_of_undirected hattrs] at hcontent hrest
    rw [walkItems_item hrun, enterItem_of_undirected hattrs]
    have hlists := (drawItem_steps d l attrs s).grows.lists hl
    have hinside := hcontent hinner (by simpa using hs) past
      (by rw [scope_drawItem]; exact h.increment_list hl.level?)
    have hafter := (walkAll_steps d content _).grows.lists hlists
    have hitem := hinside.item (l := (drawItem d l attrs s).2) hafter attrs (drawItem d l attrs s).1.attrs label
      (drawItem d l attrs s).1.label
    obtain ⟨hrest, hseries⟩ := hrest hplain hitem.running ((leaveItem_steps d _ _).grows.lists hafter) _
      hitem.tracks_single
    exact ⟨hitem.cons hrest, hseries⟩
  itemsOther kind tag attrs label content rest l s hrun hli hn hrest hplain hs hl past h := by
    rw [walkItems_other hrun hli]
    have hfirst := hn hplain.1 hs past h
    have hafter := (walk_steps d (.element tag attrs label content) s).grows.lists hl
    obtain ⟨hrest, hseries⟩ := hrest hplain.2 hfirst.running hafter _ hfirst.tracks_single
    exact ⟨hfirst.cons hrest, hseries⟩

/-- A walk over a plain draft numbers its headings by the scheme. -/
theorem walk_numbers (hd : H.Governs d) (n : Draft) (hn : n.Plain) {past : Outline} {s : State}
    (h : H.Tracks past s.scope) (hs : s.failure = none) :
    H.Numbers past [n] [(walk d n s).1] (walk d n s).2 := (numbers_cases hd).walk n s hn hs past h

theorem tracks_begin (H : HeadingScheme) (c : Template.Context) (n : Draft) :
    H.Tracks [] (Labelling.begin c n).scope where
  ranked := ⟨State.sound_begin c n, fun _ _ _ _ h => by
    simp [Labelling.begin, Roster.view?, Roster.get?] at h⟩
  sorted := List.Pairwise.nil
  opens _ := ⟨fun ⟨_, h⟩ => (by cases h), fun h => absurd h Opens.not_nil⟩
  keeps _ _ h := by cases h

end HeadingScheme

/-! ## Whole documents -/

theorem Draft.outerHeadings_toNode (table : RefTable) (n : Draft) :
    (n.toNode plainText table).outerHeadings =
      Node.outerHeadingsAll (toNodes plainText table n) := by
  rw [toNode]
  split
  · rename_i m hm
    rw [hm, Node.outerHeadingsAll, Node.outerHeadingsAll, List.append_nil]
  · rw [Node.root, Node.outerHeadings_other]
    intro l
    have : ElementKind.ofTag? Node.rootTag = none := by decide
    simp [this]

namespace Labelling
open HeadingScheme

/-- The document with its references filled in and without labels. -/
def settled (l : Labelling) (c : Template.Context) (doc : Node) : Node :=
  ((Draft.ofNode doc).markRefs none).toNode l.typeset (l.draft c (.ofNode doc)).state.refs

theorem read_ok {c c' : Template.Context} {origin : TemplateOrigin} {source : String}
    {t : Template} {i : Option Template.Instance} (hparse : Template.parse source = .ok t)
    (h : c.read origin (some source) = (.ok i, c')) :
    i.map Template.Instance.template = some t := by
  rw [Template.Context.read, Template.Context.parse, hparse] at h
  cases h
  rfl

/-- Settings that can be read number headings by the scheme of their template and level. -/
theorem governs_ofSettings {H : HeadingScheme} {settings : Settings} {source : String}
    {c c' : Template.Context} {d : Defaults} (hsource : settings.headingLabels = some source)
    (hparse : Template.parse source = .ok H.template)
    (hlevel : HeadingLevel.ofNat? settings.headingLevel = some H.first)
    (hmarkers : ∀ segment ∈ H.template.segments,
      segment.parent ≠ some .any ∧ segment.parent ≠ some .list)
    (h : Defaults.ofSettings c settings = (.ok d, c')) : H.Governs d := by
  rw [Defaults.ofSettings, hlevel, hsource] at h
  dsimp only at h
  split at h
  · cases h
  · rename_i hread
    split at h
    · cases h
    · split at h
      · cases h
      · cases h
        exact ⟨rfl, read_ok hparse hread, hmarkers⟩

/-- The headings of a labelled document that are not inside another one are those of the document,
each with the label that the scheme of the settings gives it behind the headings in front. -/
theorem headings_numbered (settings : Settings) (c : Template.Context) (doc : Node)
    (H : HeadingScheme) {source : String} {report : LabelReport}
    (hsource : settings.headingLabels = some source)
    (hparse : Template.parse source = .ok H.template)
    (hlevel : HeadingLevel.ofNat? settings.headingLevel = some H.first)
    (hmarkers : ∀ segment ∈ H.template.segments,
      segment.parent ≠ some .any ∧ segment.parent ≠ some .list)
    (hdoc : doc.Undirected)
    (hresult : ((Labelling.mk settings Draft.plainText).apply c doc).result = .ok report) :
    ((Labelling.mk settings Draft.plainText).apply c doc).document.headingLevels =
        doc.headingLevels ∧
      ((Labelling.mk settings Draft.plainText).apply c doc).document.outerHeadings =
        List.zipWith Node.labelled (H.labels [] doc.headingLevels)
          ((Labelling.mk settings Draft.plainText).settled c doc).outerHeadings := by
  obtain ⟨d, c', out, s, hread, hwalk, hdraft, -, -⟩ := exists_walk hresult
  have hgoverns := governs_ofSettings hsource hparse hlevel hmarkers hread
  have hplain := (Draft.plain_ofNode doc hdoc).markRefs none
  have hnum := walk_numbers hgoverns _ hplain
    (tracks_begin H c' ((Draft.ofNode doc).markRefs none)) rfl
  have hlv : ((Draft.ofNode doc).markRefs none).headingLevels = doc.headingLevels := by
    rw [Draft.headingLevels_markRefs, Draft.headingLevels_ofNode]
  have hheadings := hnum.headings s.refs
  simp only [Draft.toNodesAll, Draft.headingLevelsAll, List.append_nil, hlv, hwalk] at hheadings
  have hsettled := Draft.levels_toNodes s.refs ((Draft.ofNode doc).markRefs none)
  have hlength : (H.labels [] doc.headingLevels).length = (Node.outerHeadingsAll
      (Draft.toNodes Draft.plainText s.refs ((Draft.ofNode doc).markRefs none))).length := by
    rw [length_labels, ← hlv, ← hsettled, List.length_map]
  rw [apply, settled, hdraft]
  dsimp only
  rw [Node.headingLevels, Draft.outerHeadings_toNode, Draft.outerHeadings_toNode, hheadings]
  refine ⟨?_, rfl⟩
  rw [Node.map_labelled hlength, hsettled, hlv]

/-- The sections of two chapters. A heading that skips a level stays without a label. -/
theorem headings_numbered_chapters :
    let settings : Settings := { headingLabels := some "1.,H.1" }
    let doc : Node := .root [.element "h1" [] [], .element "h3" [] [], .element "h1" [] [],
      .element "h2" [] []]
    ((Labelling.mk settings Draft.plainText).apply {} doc).document.outerHeadings =
      List.zipWith Node.labelled [some "1.", none, some "2.", some "2.1"] doc.outerHeadings := by
  intro settings doc
  have h := (@headings_numbered settings {} doc
    ⟨⟨1, by decide, by decide⟩,
      { segment := { after := ".", style := some Registry.decimal }
        deeper := [{ separator := ".", parent := some .heading, style := some Registry.decimal }] }⟩
    "1.,H.1" ⟨{}, []⟩ rfl (by cbv) rfl (by decide) (by decide) (by cbv)).2
  rw [h]
  cbv

end Labelling
end Rubric
