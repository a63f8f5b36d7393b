import Mathlib.Data.List.Induction
import Rubric.Proofs.Labelling.Lineage
import Rubric.Proofs.Labelling.Visits
import Rubric.Proofs.Outline.Numbering

/-!
# The sections that are open at a point of a document

* `Event.Undirected` : the element of an event has no directive. Then the run goes on, and the element is
  numbered in the series that is there for it, if there is one;
* `openSections past` : the sections that the headings among some moments have left open;
* `Turn.sections` : what an event without directives does to the sections in scope, outside of lists;
* `Trace.sections`, `ListVisit.sections_before` : so the sections in scope are those that are open.
-/

namespace Rubric

namespace Walk
open Scope State
variable {d : Defaults}

/-! ## Events without directives -/

def Event.Undirected (e : Event) : Prop := ∀ attrs ∈ e.attrs?, attrs.Undirected

theorem Event.undirected_of_attrs {e : Event} {attrs : Attrs} (he : e.attrs? = some attrs)
    (h : attrs.Undirected) : e.Undirected := by
  intro attrs' hattrs'
  rw [he] at hattrs'
  cases hattrs'
  exact h

theorem exists_headingSeries_none (d : Defaults) (level : HeadingLevel) (s : State) :
    ∃ id s', s.headingSeries d level none = (.ok id, s') ∧ s'.failure = s.failure := by
  rw [headingSeries_none]
  cases s.scope.findKind? (.heading level) with
  | some current => exact ⟨_, _, rfl, rfl⟩
  | none =>
    cases s.headingTemplate d level none with
    | none => exact ⟨_, _, rfl, rfl⟩
    | some template => exact ⟨_, _, rfl, rfl⟩

theorem failure_enterHeading {attrs : Attrs} (h : attrs.Undirected) (level : HeadingLevel) (tag : String)
    (s : State) : (enterHeading d level tag attrs s).state.failure = s.failure := by
  have htake := takeBoth_of_undirected h tag
  have hsup : (takeBoth tag attrs).suppressed = false := by rw [htake]
  have hsource : (takeBoth tag attrs).source = none := by rw [htake]
  obtain ⟨id, s', hseries, hfailure⟩ := exists_headingSeries_none d level (closed level tag attrs s)
  rw [← hsource] at hseries
  cases id with
  | none =>
    rw [enterHeading_bare hsup hseries, failure_resolve]
    exact hfailure
  | some id =>
    rw [enterHeading_labelled hsup hseries, failure_resolve]
    exact hfailure

theorem Event.Undirected.running {e : Event} (h : e.Undirected) {s : State} (hs : s.failure = none) :
    (e.next d s).failure = none := by
  cases e with
  | heading level tag attrs => exact (failure_enterHeading (h attrs rfl) level tag s).trans hs
  | list kind tag attrs =>
    rw [next, enterList_of_undirected (h attrs rfl)]
    cases s.listTemplate? d kind with
    | none => simpa using hs
    | some template => simpa using hs
  | item kind l attrs =>
    rw [next, enterItem_of_undirected (h attrs rfl), failure_drawItem]
    exact hs
  | element tag attrs =>
    rw [next, enterElement_of_undirected (h attrs rfl)]
    simpa using hs
  | leaveItem l => exact (failure_leaveItem l s).trans hs
  | leaveList l => exact (failure_leaveList l s).trans hs

/-- Without a directive an element is numbered in the series that is there for it. -/
theorem Event.Undirected.labelled? {e : Event} (h : e.Undirected) {s : State} {old : SeriesId}
    (hold : e.current? s.scope = some old) : e.labelled? d s = some old := by
  cases e with
  | list | element | leaveItem | leaveList => cases hold
  | heading level tag attrs =>
    have hfind : (closed level tag attrs s).scope.findKind? (.heading level) = some old := hold
    rw [Event.labelled?, headingLabelled?, takeBoth_of_undirected (h attrs rfl), if_neg (by simp),
      headingSeries_none, hfind]
  | item kind l attrs =>
    cases hold
    rw [Event.labelled?, itemLabelled?, takeBoth_of_undirected (h attrs rfl), if_neg (by simp),
      readDirective_none, enterItem_of_undirected (h attrs rfl), series_drawItem]

end Walk

namespace Draft
open Walk State

theorem undirected_cases (d : Defaults) :
    WalkCases d (fun n s => n.Plain → ∀ m ∈ moments d n s, m.event.Undirected)
      (fun ns s => PlainAll ns → ∀ m ∈ momentsAll d ns s, m.event.Undirected)
      (fun kind ns l s => PlainAll ns → ∀ m ∈ momentsItems d kind ns l s, m.event.Undirected) where
  stopped n s h _ := by simp [moments_stopped h]
  leaf n s h hn _ := by simp [moments_leaf hn]
  heading level tag attrs label children s h hk hplain := by
    rw [moments_heading h hk]
    exact List.forall_mem_singleton.2 (Event.undirected_of_attrs rfl hplain.1)
  other tag attrs label children s h hk hchildren hplain := by
    rw [moments_other h hk]
    exact List.forall_mem_cons.2 ⟨Event.undirected_of_attrs rfl hplain.1, hchildren hplain.2.2⟩
  bareList kind tag attrs attrs' label children s s' h hk hlist he hchildren hplain := by
    rw [moments_bareList h hk hlist he]
    exact List.forall_mem_cons.2 ⟨Event.undirected_of_attrs rfl hplain.1, hchildren hplain.2.2⟩
  list kind tag attrs attrs' label children l s s' h hk hlist he hchildren hplain := by
    rw [moments_list h hk hlist he]
    exact List.forall_mem_cons.2 ⟨Event.undirected_of_attrs rfl hplain.1, hchildren hplain.2.2⟩
  nil s _ := by simp [momentsAll]
  cons n rest s hn hrest hplain := by
    rw [momentsAll]
    exact List.forall_mem_append.2 ⟨hn hplain.1, hrest hplain.2⟩
  itemsStopped kind ns l s h _ := by simp [momentsItems_stopped h]
  itemsNil kind l s h _ := by
    rw [momentsItems, comesTo_running h]
    exact List.forall_mem_singleton.2 fun _ ha => by cases ha
  itemsLeaf kind n rest l s h hn hrest hplain := by
    rw [momentsItems_leaf hn]
    exact hrest hplain.2
  item kind attrs label content rest l s h hcontent hrest hplain := by
    rw [momentsItems_item h]
    refine List.forall_mem_cons.2 ⟨Event.undirected_of_attrs rfl hplain.1.1,
      List.forall_mem_append.2 ⟨hcontent hplain.1.2.2, List.forall_mem_append.2 ⟨?_, hrest hplain.2⟩⟩⟩
    intro m hm
    rw [(mem_comesTo hm).2]
    exact fun _ ha => by cases ha
  itemsOther kind tag attrs label content rest l s h hli hn hrest hplain := by
    rw [momentsItems_other h hli]
    exact List.forall_mem_append.2 ⟨hn hplain.1, hrest hplain.2⟩

variable {d : Defaults} {s t : State}

theorem running_of_trace {ms : List Moment} (h : Trace d s ms t) (hms : ∀ m ∈ ms, m.event.Undirected)
    (hs : s.failure = none) : t.failure = none :=
  (h.preserves (P := fun s => s.failure = none) hs fun m hm hrun _ => (hms m hm).running hrun).2

theorem running_walk {n : Draft} (hn : n.Plain) (hs : s.failure = none) : (walk d n s).2.failure = none :=
  running_of_trace (walk_trace d n s) ((undirected_cases d).walk n s hn) hs

theorem running_walkAll {ns : List Draft} (hns : PlainAll ns) (hs : s.failure = none) :
    (walkAll d ns s).2.failure = none :=
  running_of_trace (walkAll_trace d ns s) ((undirected_cases d).walkAll ns s hns) hs

end Draft

/-! ## Sections -/

/-- The sections that are open behind an event, where some are open in front of it, deepest first. A heading
ends the sections of its level and deeper. If it has a label, its own section is open from there on. -/
def Walk.Event.opens (own : Option SeriesId) (sections : List (SeriesId × HeadingLevel)) :
    Walk.Event → List (SeriesId × HeadingLevel)
  | heading level .. =>
    (own.map (·, level)).toList ++ sections.filter fun e => decide (e.2.number < level.number)
  | list .. | item .. | element .. | leaveItem _ | leaveList _ => sections

/-- The sections that are open behind the event. -/
def Moment.opens (sections : List (SeriesId × HeadingLevel)) (m : Moment) : List (SeriesId × HeadingLevel) :=
  m.event.opens m.labelled? sections

/-- The sections that some moments have left open, deepest first. -/
def openSections (past : List Moment) : List (SeriesId × HeadingLevel) := past.foldl Moment.opens []

def Walk.Event.level? : Walk.Event → Option HeadingLevel
  | heading level .. => some level
  | list .. | item .. | element .. | leaveItem _ | leaveList _ => none

theorem Moment.mem_opens {m : Moment} {sections : List (SeriesId × HeadingLevel)}
    {e : SeriesId × HeadingLevel} :
    e ∈ m.opens sections ↔ (m.event.level? = some e.2 ∧ m.labelled? = some e.1) ∨
      (e ∈ sections ∧ ∀ level, m.event.level? = some level → e.2.number < level.number) := by
  rw [opens]
  cases hevent : m.event with
  | heading level tag attrs =>
    obtain ⟨id, l⟩ := e
    simp only [Walk.Event.opens, Walk.Event.level?, List.mem_append, Option.mem_toList, Option.map_eq_some_iff,
      Prod.mk.injEq, List.mem_filter, decide_eq_true_iff, Option.some.injEq, forall_eq']
    refine or_congr ⟨?_, ?_⟩ Iff.rfl
    · rintro ⟨own, hown, rfl, rfl⟩
      exact ⟨rfl, hown⟩
    · rintro ⟨rfl, hown⟩
      exact ⟨id, hown, rfl, rfl⟩
  | list | item | element | leaveItem | leaveList => simp [Walk.Event.opens, Walk.Event.level?]

/-- A section is open if its heading has a label and no heading of its level or a smaller one stands behind
it. -/
theorem mem_openSections {past : List Moment} {e : SeriesId × HeadingLevel} :
    e ∈ openSections past ↔ ∃ pre m post, past = pre ++ m :: post ∧ m.event.level? = some e.2 ∧
      m.labelled? = some e.1 ∧ ∀ m' ∈ post, ∀ level, m'.event.level? = some level →
        e.2.number < level.number := by
  induction past using List.reverseRecOn with
  | nil =>
    refine iff_of_false (by simp [openSections]) ?_
    rintro ⟨pre, m, post, hnil, -⟩
    simp at hnil
  | append_singleton past m ih =>
    rw [openSections, List.foldl_append, List.foldl_cons, List.foldl_nil, ← openSections, Moment.mem_opens, ih]
    constructor
    · rintro (⟨hlevel, hown⟩ | ⟨⟨pre, m', post, rfl, hlevel, hown, hpost⟩, hm⟩)
      · exact ⟨past, m, [], rfl, hlevel, hown, by simp⟩
      · refine ⟨pre, m', post ++ [m], by simp, hlevel, hown, ?_⟩
        exact List.forall_mem_append.2 ⟨hpost, List.forall_mem_singleton.2 hm⟩
    · rintro ⟨pre, m', post, heq, hlevel, hown, hpost⟩
      rcases List.eq_nil_or_concat post with rfl | ⟨post, last, rfl⟩
      · obtain ⟨rfl, hm⟩ := List.append_inj' heq rfl
        cases hm
        exact Or.inl ⟨hlevel, hown⟩
      · rw [List.concat_eq_append, ← List.cons_append, ← List.append_assoc] at heq
        obtain ⟨rfl, hm⟩ := List.append_inj' heq rfl
        cases hm
        rw [List.concat_eq_append] at hpost
        obtain ⟨hpost, hlast⟩ := List.forall_mem_append.1 hpost
        exact Or.inr ⟨⟨pre, m', post, rfl, hlevel, hown, hpost⟩, List.forall_mem_singleton.1 hlast⟩

namespace Scope
variable {s : Scope}

/-- Outside of lists, what is in scope for a heading that starts a section is of smaller levels. -/
theorem exists_level_of_mem {level : HeadingLevel} (hlists : (s.closeBelow level).lists = [])
    (hfind : (s.closeBelow level).findKind? (.heading level) = none) {id : SeriesId}
    (hid : id ∈ (s.closeBelow level).stack) :
    ∃ l, (s.closeBelow level).level? id = some l ∧ l.number < level.number := by
  have hsection : (s.closeBelow level).level? id ≠ none := by
    intro hnone
    have hmem : id ∈ (s.closeBelow level).lists := mem_lists.2 ⟨hid, hnone⟩
    rw [hlists] at hmem
    cases hmem
  obtain ⟨l, hl⟩ := Option.ne_none_iff_exists'.1 hsection
  exact ⟨l, hl, lt_of_mem_closeBelow hfind (mem_sections.2 ⟨hid, hl⟩)⟩

/-- A series that starts keeps the scope ranked if it is of a list, or deeper than all that is in scope. -/
theorem Ranked.start_selected (h : s.Ranked) (kind : ElementKind) (template : Template.Instance) (styled : Bool)
    (hlevel : ∀ l id, kind = .heading l → id ∈ s.stack → ∃ m, s.level? id = some m ∧ m.number < l.number) :
    (s.started kind template (template.template.segment.parent.bind s.find?) styled).Ranked :=
  h.start kind template _ styled (fun _ => mem_of_selected) fun l id hl hid =>
    hlevel l id hl (mem_of_selected hid)

theorem Ranked.filter_closeBelow (h : s.Ranked) (level : HeadingLevel) :
    (s.closeBelow level).sections.filter (fun e => decide (e.2.number < level.number)) =
      s.sections.filter fun e => decide (e.2.number < level.number) := by
  rw [h.sections_closeBelow, List.filter_filter]
  refine List.filter_congr fun e _ => ?_
  have hle : e.2.number < level.number → e.2.number ≤ level.number := Nat.le_of_lt
  simpa using hle

/-- Where no section of its level is open, all sections behind the ends of the deeper ones are of smaller
levels. -/
theorem Ranked.sections_closeBelow_of_none (h : s.Ranked) {level : HeadingLevel}
    (hfind : (s.closeBelow level).findKind? (.heading level) = none) :
    (s.closeBelow level).sections = s.sections.filter fun e => decide (e.2.number < level.number) := by
  rw [← h.filter_closeBelow]
  symm
  rw [List.filter_eq_self]
  exact fun e he => by simpa using lt_of_mem_closeBelow hfind he

end Scope

namespace Walk
open Scope

/-- An event that numbers its element in the series that is there for it leaves the sections in scope that are
open behind it, if headings are outside of lists. -/
theorem Turn.sections {s s' : Scope} {e : Event} {own : Option SeriesId} (h : Turn s e own s')
    (hsame : ∀ old, e.current? s = some old → own = some old) (hfits : e.Fits s.roster) (hclear : e.Clear s)
    (hr : s.Ranked) (hst : s.Stacked) : s'.Ranked ∧ s'.sections = e.opens own s.sections := by
  have hclosed : ∀ level, (s.closeBelow level).Ranked := by
    intro level
    obtain ⟨gone, hsh, -⟩ := shrinks_closeBelow s level
    exact hr.shrinks hsh
  cases h with
  | close level =>
    refine ⟨hclosed level, hr.sections_closeBelow_of_none ?_⟩
    rw [Option.eq_none_iff_forall_ne_some]
    intro old hold
    cases hsame old hold
  | @count level tag attrs id hfind =>
    obtain ⟨gone, hsh, -⟩ := shrinks_closeBelow s level
    refine ⟨(hclosed level).increment id, ?_⟩
    rw [sections_increment, eq_cons_filter (hst.shrinks hsh) (mem_sections_of_findKind? hfind)
      fun e he => le_of_mem_closeBelow he, hr.filter_closeBelow]
    rfl
  | @restart level tag attrs old template hfind =>
    -- the old series would number the heading, and the new one is not there yet
    have hold := (hclosed level).has old (findKind?_mem hfind)
    have heq := Option.some.inj (hsame old hfind)
    rw [← heq] at hold
    exact absurd hold (Nat.lt_irrefl _)
  | @start level tag attrs template hfind =>
    obtain ⟨gone, hsh, -⟩ := shrinks_closeBelow s level
    have hlists : (s.closeBelow level).lists = [] := List.sublist_nil.1 (hclear ▸ hsh.lists)
    have hstarted := (hclosed level).start_selected (.heading level) template false
      fun l id hl hid => by
        cases hl
        exact exists_level_of_mem hlists hfind hid
    refine ⟨hstarted.increment _, ?_⟩
    rw [sections_increment, (hclosed level).sections_start, hr.sections_closeBelow_of_none hfind]
    rfl
  | bareList | element | skip => exact ⟨hr, rfl⟩
  | @list kind tag attrs template styled =>
    have hkind := ElementKind.level?_of_isList hfits.2
    refine ⟨hr.start_selected kind template styled fun l id hl _ => ?_, ?_⟩
    · rw [hl] at hkind
      cases hkind
    · rw [hr.sections_start, hkind]
      rfl
  | countItem kind l attrs => exact ⟨hr.increment _, sections_increment s l.series⟩
  | @restartItem kind l attrs template styled =>
    obtain ⟨v, hv, -⟩ := hfits.2
    have hold := Roster.has_of_view? hv
    have heq := Option.some.inj (hsame l.series rfl)
    rw [← heq] at hold
    exact absurd hold (Nat.lt_irrefl _)
  | leaveItem l =>
    obtain ⟨gone, hsh, -⟩ := shrinks_endBelow s l.series
    exact ⟨hr.shrinks hsh, hr.sections_endBelow hfits.level?⟩
  | leaveList l => exact ⟨hr.remove l.series, sections_remove hfits.level?⟩

end Walk

/-- The sections in scope behind moments without directives are those that they leave open, if headings are
outside of lists. -/
theorem Trace.sections {d : Defaults} {s t : State} {ms : List Moment} (h : Trace d s ms t)
    (hms : ∀ m ∈ ms, m.event.Undirected ∧ m.event.Fits m.before.scope.roster ∧
      m.event.Clear m.before.scope ∧ m.before.scope.Stacked)
    (hr : s.scope.Ranked) : t.scope.Ranked ∧ t.scope.sections = ms.foldl Moment.opens s.scope.sections := by
  induction h with
  | nil s => exact ⟨hr, rfl⟩
  | @cons e s t ms hrun _ ih =>
    obtain ⟨⟨hplain, hfits, hclear, hst⟩, hrest⟩ := List.forall_mem_cons.1 hms
    have hturn := Moment.turn ⟨d, s, e⟩ hrun
    obtain ⟨hranked, hsections⟩ := hturn.sections (fun old hold => hplain.labelled? hold) hfits hclear hr hst
    obtain ⟨hend, hall⟩ := ih hrest hranked
    exact ⟨hend, hall.trans (congrArg (ms.foldl Moment.opens) hsections)⟩

/-! ## Runs -/

def ListVisit.sections (v : ListVisit) : List (SeriesId × HeadingLevel) := openSections v.past

namespace Labelling
open State Draft
variable {l : Labelling} {c c' : Template.Context} {d : Defaults} {doc : Node}

theorem ranked_begin (c : Template.Context) (n : Draft) : (begin c n).scope.Ranked where
  toSound := sound_begin c n
  outer id v l p hv := by cases hv

theorem moments_undirected (h : doc.Undirected) : ∀ m ∈ l.moments c doc, m.event.Undirected := by
  rw [moments]
  split
  · simp
  · exact (undirected_cases _).walk _ _ ((plain_ofNode doc h).markRefs none)

/-- A run over a document without directives comes to its end if the settings can be read. -/
theorem running_of_undirected (hread : Defaults.ofSettings c l.settings = (.ok d, c'))
    (h : doc.Undirected) : (l.draft c (.ofNode doc)).state.failure = none := by
  rw [draft, hread]
  exact running_walk ((plain_ofNode doc h).markRefs none) rfl

/-- The sections in scope at a list are those that are open there, deepest first. -/
theorem sections_before (h : doc.Undirected) (hbare : doc.BareLists) {v : ListVisit}
    (hv : v ∈ l.listVisits c doc) : v.before.scope.sections = v.sections ∧ v.before.scope.Stacked := by
  obtain ⟨d, c', -, hwithin⟩ := l.listVisits_within c doc v hv
  obtain ⟨pre, post, hms, hpast, hpre, -⟩ := hwithin.split
  have hsub : ∀ m ∈ pre, m ∈ l.moments c doc := fun m hm => hms ▸ List.mem_append_left _ hm
  have hstacked := fun m hm => l.moments_stacked c doc m (hsub m hm)
  have hsections := (hpre.sections (fun m hm => ⟨moments_undirected h m (hsub m hm),
    l.moments_fit c doc m (hsub m hm), l.moments_clear c doc hbare m (hsub m hm), (hstacked m hm).1⟩)
    (ranked_begin c' _)).2
  refine ⟨?_, (hpre.preserves (P := fun s => s.scope.Stacked) List.Pairwise.nil fun m hm _ _ =>
    (hstacked m hm).2).2⟩
  rw [hsections, ListVisit.sections, hpast]
  rfl

end Labelling
end Rubric
