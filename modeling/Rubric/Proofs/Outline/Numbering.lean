import Mathlib.Data.List.Basic
import Rubric.Proofs.Labelling.Changes
import Rubric.Proofs.Outline.Tracking
import Rubric.Proofs.Scope.Start

/-!
# The number of one more heading

* `Ranked.increment`, `Ranked.start` : counting an element and starting a series keep a scope ranked;
* `Tracks.start_list`, `increment_list`, `endBelow_list`, `remove_list` : nothing that is done for a
  list touches the sections;
* `HeadingScheme.Governs H d` : the settings number headings by the scheme;
* `Closed.headingTemplate` : the template of a heading that starts a section;
* `Tracks.enterHeading` : a heading gets the label that the scheme gives it behind the others.
-/

namespace Rubric

namespace Scope
variable {s : Scope}

theorem Ranked.increment (h : s.Ranked) (id : SeriesId) : (s.increment id).Ranked where
  toSound := h.toSound.increment id
  outer j v l p hv hk hp := by
    rw [Scope.increment, Roster.view?_increment] at hv
    obtain ⟨w, hw, rfl⟩ := Option.map_eq_some_iff.1 hv
    have hk' : w.kind = .heading l := by split at hk <;> exact hk
    have hp' : w.parent = some p := by split at hp <;> exact hp
    simpa only [level?_increment] using h.outer j w l p hw hk' hp'

theorem Ranked.start (h : s.Ranked) (kind : ElementKind) (template : Template.Instance)
    (parent : Option SeriesId) (styled : Bool) (hparent : ∀ p, parent = some p → p ∈ s.stack)
    (hlevel : ∀ l p, kind = .heading l → parent = some p →
      ∃ m, s.level? p = some m ∧ m.number < l.number) :
    (s.started kind template parent styled).Ranked where
  toSound := h.toSound.start kind template styled hparent
  outer id v l p hv hk hp := by
    rw [view?_started] at hv
    split at hv
    · cases hv
      obtain ⟨m, hm, hml⟩ := hlevel l p hk hp
      exact ⟨m, (level?_started_of_has (h.has p (hparent p hp)) ..).trans hm, hml⟩
    · obtain ⟨m, hm, hml⟩ := h.outer id v l p hv hk hp
      exact ⟨m, (level?_started_of_has (has_of_level? hm) ..).trans hm, hml⟩

theorem Ranked.remove (h : s.Ranked) (id : SeriesId) : (s.remove id).Ranked :=
  h.shrinks (shrinks_remove s id)

end Scope

namespace HeadingScheme
open Scope
variable {H : HeadingScheme} {past : Outline} {s : Scope}

/-! ## Lists -/

theorem Tracks.start_list (h : H.Tracks past s) {kind : ElementKind} (hk : kind.level? = none)
    (template : Template.Instance) (parent : Option SeriesId) (styled : Bool)
    (hparent : ∀ p, parent = some p → p ∈ s.stack) :
    H.Tracks past (s.started kind template parent styled) := by
  refine h.of_sections_eq (h.ranked.start kind template parent styled hparent ?_) ?_ ?_
  · rintro l p rfl
    cases hk
  · rw [h.ranked.sections_start, hk]
    rfl
  · intro j hj
    obtain ⟨l, hl⟩ := Option.ne_none_iff_exists'.1 hj
    exact view?_started_of_has (has_of_level? hl) ..

theorem Tracks.increment_list (h : H.Tracks past s) {id : SeriesId} (hid : s.level? id = none) :
    H.Tracks past (s.increment id) := by
  refine h.of_sections_eq (h.ranked.increment id) (sections_increment s id) fun j hj => ?_
  have hne : j ≠ id := fun he => hj (he ▸ hid)
  exact Roster.view?_increment_of_ne hne

theorem Tracks.endBelow_list (h : H.Tracks past s) {id : SeriesId} (hid : s.level? id = none) :
    H.Tracks past (s.endBelow id) := by
  obtain ⟨gone, hsh, -⟩ := shrinks_endBelow s id
  exact h.of_sections_eq (h.ranked.shrinks hsh) (h.ranked.sections_endBelow hid) fun j _ => hsh.view j

theorem Tracks.remove_list (h : H.Tracks past s) {id : SeriesId} (hid : s.level? id = none) :
    H.Tracks past (s.remove id) :=
  h.of_sections_eq (h.ranked.remove id) (sections_remove hid) fun j _ => (shrinks_remove s id).view j

/-! ## Headings -/

/-- The sections behind a heading of a level that is open already. -/
theorem Closed.sections_of_mem {l : HeadingLevel} {id : SeriesId} (h : H.Closed past l s)
    (hid : (id, l) ∈ s.sections) :
    s.sections = (id, l) :: s.sections.filter fun e => decide (e.2.number < l.number) :=
  eq_cons_filter h.sorted hid fun e he => ((h.opens e.2).1 ⟨e.1, he⟩).1

/-- A section of a level that is not open stands above all that are. -/
theorem Closed.lt_of_sectionOf?_eq_none {l : HeadingLevel} (h : H.Closed past l s)
    (hnone : s.sectionOf? l = none) {e : SeriesId × HeadingLevel} (he : e ∈ s.sections) :
    e.2.number < l.number := by
  have hle := ((h.opens e.2).1 ⟨e.1, he⟩).1
  refine Nat.lt_of_le_of_ne hle fun heq => ?_
  have : e.2 = l := HeadingLevel.ext heq
  exact sectionOf?_eq_none.1 hnone e.1 (this ▸ he)

/-- The series that a marker of the scheme selects for a new section. -/
theorem Closed.find?_marker {l : HeadingLevel} (h : H.Closed past l s) (hl : H.Labels past l)
    (hnone : s.sectionOf? l = none) {marker : Selector} (hany : marker ≠ .any)
    (hlist : marker ≠ .list) :
    s.find? marker = (l.markerLevel? marker).bind s.sectionOf? := by
  have hlt := fun {e} (he : e ∈ s.sections) => h.lt_of_sectionOf?_eq_none hnone he
  cases marker with
  | any => exact absurd rfl hany
  | list => exact absurd rfl hlist
  | level n =>
    rw [find?_level, HeadingLevel.markerLevel?]
    split
    · rfl
    · rename_i hn
      rw [Option.bind_none, sectionOf?_eq_none]
      intro id hid
      exact hn (hlt hid)
  | heading =>
    rw [find?_heading, HeadingLevel.markerLevel?]
    cases hsec : s.sections with
    | nil =>
      have hno : ∀ n, s.sectionOf? n = none := fun n => sectionOf?_eq_none.2 fun id hid => by
        rw [hsec] at hid
        cases hid
      cases l.outer? with
      | none => rfl
      | some n => exact (hno n).symm
    | cons e rest =>
      -- the innermost section is that of the level above
      have he : e ∈ s.sections := hsec ▸ List.mem_cons_self ..
      have hel := hlt he
      rcases (labels_iff.1 hl).2 with rfl | ⟨m, hm, hopen⟩
      · have := ((h.opens e.2).1 ⟨e.1, he⟩).2.2.first_le
        omega
      · have hml := HeadingLevel.number_outer? hm
        have h1 := e.2.one_le
        obtain ⟨p, hp⟩ := (h.opens m).2 ⟨by omega, hopen⟩
        have hem : e.2 = m := by
          have hs := h.sorted
          rw [hsec] at hp hs
          obtain ⟨hall, -⟩ := List.pairwise_cons.1 hs
          rcases List.mem_cons.1 hp with heq | hp
          · exact congrArg Prod.snd heq.symm
          · have hlt' : m.number < e.2.number := hall _ hp
            exact HeadingLevel.ext (by omega)
        rw [hm, Option.bind_some, ← hem, sectionOf?_of_mem h.sorted he]
        rfl

/-- The settings number headings by a scheme, whose labels refer to outer headings only. -/
structure Governs (H : HeadingScheme) (d : Defaults) : Prop where
  level : d.level = H.first
  heading : d.heading.map Template.Instance.template = some H.template
  markers : ∀ segment ∈ H.template.segments,
    segment.parent ≠ some .any ∧ segment.parent ≠ some .list

theorem childTemplate?_heading {st : State} {m : HeadingLevel} {id : SeriesId} {v : Series}
    (hof : st.scope.sectionOf? m = some id) (hv : st.scope.roster.view? id = some v) :
    st.childTemplate? (.heading m) = v.template.child? := by
  obtain ⟨t, ht, rfl⟩ := Roster.get?_of_view? hv
  simp [State.childTemplate?, findKind?_heading, hof, ht, Series.unlinked]

/-- Below an open section of the level above, a heading has the next template of that section. -/
theorem Closed.childTemplate?_outer {st : State} {l m : HeadingLevel} (h : H.Closed past l st.scope)
    (hm : l.outer? = some m) (hopen : H.Opens past m) :
    (st.childTemplate? (.heading m)).map Template.Instance.template =
      H.template.below? (l.number - H.first.number) := by
  have hml := HeadingLevel.number_outer? hm
  have hfirst := hopen.2.first_le
  have h1 := m.one_le
  obtain ⟨id, hid⟩ := (h.opens m).2 ⟨by omega, hopen⟩
  obtain ⟨v, hv⟩ := h.keeps id m hid
  have hsub : l.number - H.first.number = m.number - H.first.number + 1 := by omega
  rw [childTemplate?_heading (sectionOf?_of_mem h.sorted hid) hv.view, Template.Instance.child?,
    Option.map_map, hsub, Template.below?_succ, hv.template]
  exact Option.map_id'

theorem below?_isSome_iff {l : HeadingLevel} (hl : H.first.number ≤ l.number) :
    (H.template.below? (l.number - H.first.number)).isSome ↔ (H.segment? l).isSome := by
  rw [segment?_eq_map hl, Option.isSome_map]

/-- The template of a heading that starts a section is that of its level, if the heading has a
label. -/
theorem Closed.headingTemplate {st : State} {l : HeadingLevel} (h : H.Closed past l st.scope)
    {d : Defaults} (hd : H.Governs d) :
    (st.headingTemplate d l none).map Template.Instance.template =
      if H.Labels past l then H.template.below? (l.number - H.first.number) else none := by
  rw [State.headingTemplate, hd.level]
  by_cases hopen : ∃ m, l.outer? = some m ∧ H.Opens past m
  · -- below the section of the level above
    obtain ⟨m, hm, hopen⟩ := hopen
    have hml := HeadingLevel.number_outer? hm
    have hfirst := hopen.2.first_le
    have h1 := m.one_le
    have hne : l ≠ H.first := fun he => by rw [he] at hml; omega
    have hchild := h.childTemplate?_outer hm hopen
    rw [hm, Option.bind_some, if_neg hne]
    cases hc : st.childTemplate? (.heading m) with
    | none =>
      rw [hc, Option.map_none] at hchild
      rw [← hchild, ite_self]
      rfl
    | some child =>
      rw [hc, Option.map_some] at hchild
      have hle : H.first.number ≤ l.number := by omega
      have hsome : (H.segment? l).isSome := (below?_isSome_iff hle).1 (by rw [← hchild]; rfl)
      rw [if_pos (labels_iff.2 ⟨hsome, Or.inr ⟨m, hm, hopen⟩⟩), ← hchild]
      rfl
  · -- no section around
    have hnone : (l.outer?.bind fun m => st.childTemplate? (.heading m)) = none := by
      cases hm : l.outer? with
      | none => rfl
      | some m =>
        have hof : st.scope.sectionOf? m = none := sectionOf?_eq_none.2 fun id hid =>
          hopen ⟨m, hm, ((h.opens m).1 ⟨id, hid⟩).2⟩
        simp [State.childTemplate?, findKind?_heading, hof]
    rw [hnone]
    by_cases hl : l = H.first
    · have hsome : (H.segment? l).isSome := (below?_isSome_iff (hl ▸ Nat.le_refl _)).1 (by
        rw [hl, Nat.sub_self]
        rfl)
      rw [if_pos hl, if_pos (labels_iff.2 ⟨hsome, Or.inl hl⟩), hl, Nat.sub_self]
      exact hd.heading
    · have hlabels : ¬H.Labels past l := fun h' =>
        (labels_iff.1 h').2.elim hl hopen
      rw [if_neg hl, if_neg hlabels]
      rfl

/-- The label of the series that has just counted a heading. -/
theorem text_of_bareText {l : HeadingLevel} {id : SeriesId} {v : Series} (hl : H.Labels past l)
    (hv : s.roster.view? id = some v)
    (ht : H.template.below? (l.number - H.first.number) = some v.template.template)
    (hbare : s.roster.bareText id = H.coreLabel past l) :
    some (s.roster.text id) = H.label past l := by
  have hseg : H.segment? l = some v.segment := by
    rw [segment?_eq_map hl.first_le, ht]
    rfl
  rw [label, if_pos hl, hseg, Roster.text_eq, hv, hbare]
  rfl

/-- A heading of an open section counts on. -/
theorem Closed.increment {l : HeadingLevel} {id : SeriesId} (h : H.Closed past l s)
    (hid : (id, l) ∈ s.sections) :
    H.Tracks (l :: past) (s.increment id) ∧
      some ((s.increment id).roster.text id) = H.label past l := by
  have hl : H.Labels past l := ((h.opens l).1 ⟨id, hid⟩).2.2
  obtain ⟨v, hv⟩ := h.keeps id l hid
  have hview : (s.increment id).roster.view? id = some { v with count := v.count + 1 } := by
    rw [Scope.increment, Roster.view?_increment, hv.view]
    simp
  have hcount : v.count + 1 = past.number l := by rw [hv.count, Outline.number]
  have hothers : ∀ j m, s.level? j = some m → m.number < l.number →
      (s.increment id).roster.view? j = s.roster.view? j := by
    intro j m hj hm
    have hne : j ≠ id := fun he => by
      rw [he, (mem_sections.1 hid).2] at hj
      cases hj
      exact Nat.lt_irrefl _ hm
    exact Roster.view?_increment_of_ne hne
  obtain ⟨htracks, hbare⟩ := h.counted hl (h.ranked.increment id)
    ((sections_increment s id).trans (h.sections_of_mem hid)) hothers hview hv.template hcount
    hv.parent
  exact ⟨htracks, text_of_bareText hl hview hv.template hbare⟩

/-- The series that a new section hangs below, by the template of its level. -/
theorem Closed.parent_eq {l : HeadingLevel} (h : H.Closed past l s) (hl : H.Labels past l)
    (hnone : s.sectionOf? l = none) {d : Defaults} (hd : H.Governs d) {segment : Segment}
    (hsegment : segment ∈ H.template.segments) :
    segment.parent.bind s.find? = (segment.parent.bind l.markerLevel?).bind s.sectionOf? := by
  cases hp : segment.parent with
  | none => rfl
  | some marker =>
    obtain ⟨hany, hlist⟩ := hd.markers _ hsegment
    rw [hp] at hany hlist
    exact h.find?_marker hl hnone (fun he => hany (he ▸ rfl)) (fun he => hlist (he ▸ rfl))

/-- It is an open section of an outer level. -/
theorem Closed.parent_mem {l : HeadingLevel} {marker : Option Selector} {p : SeriesId}
    (hp : (marker.bind l.markerLevel?).bind s.sectionOf? = some p) :
    ∃ m, (p, m) ∈ s.sections ∧ m.number < l.number := by
  obtain ⟨m, hm, hp⟩ := Option.bind_eq_some_iff.1 hp
  obtain ⟨marker, -, hm⟩ := Option.bind_eq_some_iff.1 hm
  exact ⟨m, mem_of_sectionOf? hp, HeadingLevel.markerLevel?_lt hm⟩

theorem Closed.number_eq_one {l : HeadingLevel} (h : H.Closed past l s) (hl : H.Labels past l)
    (hnone : s.sectionOf? l = none) : past.number l = 1 := by
  have hopen : l ∉ past.sinceOuter l := by
    intro hmem
    obtain ⟨id, hid⟩ := (h.opens l).2 ⟨Nat.le_refl _, hmem, hl⟩
    exact sectionOf?_eq_none.1 hnone id hid
  rw [Outline.number, List.count_eq_zero.2 hopen]

theorem Closed.sections_started {l : HeadingLevel} (h : H.Closed past l s) (hnone : s.sectionOf? l = none)
    (template : Template.Instance) (parent : Option SeriesId) :
    (s.started (.heading l) template parent false).sections =
      (s.roster.series.size, l) :: s.sections.filter fun e => decide (e.2.number < l.number) := by
  have hall : s.sections.filter (fun e => decide (e.2.number < l.number)) = s.sections :=
    List.filter_eq_self.2 fun e he => by simpa using h.lt_of_sectionOf?_eq_none hnone he
  rw [h.ranked.sections_start, hall]
  rfl

/-- A heading that opens a section counts as its first. -/
theorem Closed.start {l : HeadingLevel} (h : H.Closed past l s) (hl : H.Labels past l)
    (hnone : s.sectionOf? l = none) {template : Template.Instance} {d : Defaults}
    (hd : H.Governs d)
    (ht : H.template.below? (l.number - H.first.number) = some template.template) :
    let s' := (s.started (.heading l) template
      (template.template.segment.parent.bind s.find?) false).increment s.roster.series.size
    H.Tracks (l :: past) s' ∧ some (s'.roster.text s.roster.series.size) = H.label past l := by
  rw [h.parent_eq hl hnone hd (Template.segment_mem_of_below? ht)]
  generalize hpar : (template.template.segment.parent.bind l.markerLevel?).bind s.sectionOf? =
    parent
  have hfind : ∀ p, parent = some p → ∃ m, (p, m) ∈ s.sections ∧ m.number < l.number :=
    fun p hp => Closed.parent_mem (hpar.trans hp)
  have hstarted := h.ranked.start (.heading l) template parent false
    (fun p hp => by
      obtain ⟨m, hm, -⟩ := hfind p hp
      exact (mem_sections.1 hm).1)
    (fun l' p hl' hp => by
      cases hl'
      obtain ⟨m, hm, hml⟩ := hfind p hp
      exact ⟨m, (mem_sections.1 hm).2, hml⟩)
  have hview : ((s.started (.heading l) template parent false).increment
      s.roster.series.size).roster.view? s.roster.series.size =
        some { s.roster.newSeries (.heading l) template parent false with count := 1 } := by
    rw [Scope.increment, Roster.view?_increment, view?_started]
    simp [Roster.newSeries]
  have hsections := (sections_increment _ s.roster.series.size).trans
    (h.sections_started hnone template parent)
  have hothers : ∀ j m, s.level? j = some m → m.number < l.number →
      ((s.started (.heading l) template parent false).increment
        s.roster.series.size).roster.view? j = s.roster.view? j := by
    intro j m hj _
    have hhas := has_of_level? hj
    rw [Scope.increment, Roster.view?_increment_of_ne (Nat.ne_of_lt hhas), view?_started_of_has hhas]
  have hcount := h.number_eq_one hl hnone
  obtain ⟨htracks, hbare⟩ := h.counted hl (hstarted.increment s.roster.series.size) hsections hothers
    hview ht hcount.symm hpar.symm
  exact ⟨htracks, text_of_bareText hl hview ht hbare⟩

/-- A heading without directives keeps its attributes and gets the label of the scheme. -/
theorem Tracks.enterHeading {st : State} (h : H.Tracks past st.scope) {d : Defaults}
    (hd : H.Governs d) {attrs : Attrs} (ha : attrs.Undirected) (l : HeadingLevel) (tag : String) :
    (Walk.enterHeading d l tag attrs st).attrs = attrs ∧
      (Walk.enterHeading d l tag attrs st).label = H.label past l ∧
      H.Tracks (l :: past) (Walk.enterHeading d l tag attrs st).state.scope ∧
      (Walk.enterHeading d l tag attrs st).state.failure = st.failure := by
  have hclosed := h.close l
  rw [Walk.enterHeading, Walk.takeBoth_of_undirected ha]
  generalize hst : State.warn { st with scope := st.scope.closeBelow l } [] = st'
  have hscope : st'.scope = st.scope.closeBelow l := by rw [← hst]; rfl
  have hfailure : st'.failure = st.failure := by rw [← hst]; rfl
  rw [← hscope] at hclosed
  simp only [Bool.false_eq_true, if_false, State.headingSeries, State.readDirective_none,
    findKind?_heading]
  cases hof : st'.scope.sectionOf? l with
  | some id =>
    obtain ⟨htracks, hlabel⟩ := hclosed.increment (mem_of_sectionOf? hof)
    refine ⟨rfl, hlabel, ?_, ?_⟩
    · simpa using htracks
    · simpa using hfailure
  | none =>
    have htemplate := hclosed.headingTemplate hd
    cases ht : st'.headingTemplate d l none with
    | none =>
      rw [ht] at htemplate
      have hl : ¬H.Labels past l := fun hl => by
        rw [if_pos hl] at htemplate
        have hs := hl.1
        rw [segment?_eq_map hl.first_le, ← htemplate] at hs
        cases hs
      simp only [ht, true_and]
      refine ⟨(if_neg hl).symm, ?_, ?_⟩
      · simpa using hclosed.unlabelled hl
      · simpa using hfailure
    | some template =>
      rw [ht, Option.map_some] at htemplate
      by_cases hl : H.Labels past l
      · rw [if_pos hl] at htemplate
        obtain ⟨htracks, hlabel⟩ := hclosed.start hl hof hd htemplate.symm
        simp only [ht, State.start_eq, true_and]
        refine ⟨hlabel, ?_, ?_⟩
        · simpa using htracks
        · simpa using hfailure
      · rw [if_neg hl] at htemplate
        cases htemplate

end HeadingScheme
end Rubric
