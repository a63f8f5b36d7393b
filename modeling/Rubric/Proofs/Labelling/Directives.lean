import Rubric.Proofs.Labelling.Reports

/-!
# What becomes of directives

* `Moment.Creates m source` : the element begins a series with the template `source`;
* `Treats.creates` : so it is with a template that is read;
* `OuterElement.duplicate_mem_warnings`, `template_mem_warnings` : about a directive with two forms there is a
  warning, and about a template that is not read;
* `OuterElement.Loses` : an element loses its directives, and nothing else but classes and counter resets change;
* `OuterElement.Accounted` : its template has begun a series, or there is a warning, as there is about a directive
  with two forms;
* `Labelling.directives_consumed` : so it is with all elements outside of the content of headings.
-/

namespace Rubric
open Walk

/-! ## Templates that are read -/

/-- The element of the moment begins a series with a template: the one in which it is numbered, or that of its
list. -/
def Moment.Creates (m : Moment) (source : String) : Prop :=
  ∃ t n id v, Template.parse source = .ok t ∧ (m.labelled? = some id ∨ m.begins? = some id) ∧
    m.before.scope.roster.get? id = none ∧ m.after.scope.roster.get? id = some v ∧ v.template = ⟨t, n, 0⟩

namespace Walk
open State
variable {d : Defaults} {s s' : State}

theorem templateOfList_some {kind : ElementKind} {tag source : String} {template : Option Template.Instance}
    (h : s.templateOfList d kind tag (some source) = (.ok template, s')) :
    ∃ t n, Template.parse source = .ok t ∧ template = some ⟨t, n, 0⟩ ∧ s'.scope = s.scope := by
  rcases hread : s.readDirective tag (some source) with ⟨e | template', s₁⟩ <;>
    rw [State.templateOfList, hread] at h
  · cases h
  · obtain ⟨t, n, ht, rfl, hscope⟩ := readDirective_some hread
    cases h
    exact ⟨t, n, ht, rfl, hscope⟩

theorem opened_enterList {kind : ElementKind} {tag source : String} {attrs : Attrs}
    (hsource : (takeBoth tag attrs).source = some source)
    (hend : (enterList d kind tag attrs s).2.2.failure = none) :
    ∃ t n, Template.parse source = .ok t ∧
      (enterList d kind tag attrs s).2.1.map ListState.series = some s.scope.roster.series.size ∧
      (enterList d kind tag attrs s).2.2.scope = s.scope.opened none kind ⟨t, n, 0⟩ d.styled := by
  rcases htemplate : (noticed tag attrs s).templateOfList d kind tag (takeBoth tag attrs).source
    with ⟨err | template, s'⟩
  · rw [enterList_failed htemplate] at hend
    cases hend
  · have hread := htemplate
    rw [hsource] at hread
    obtain ⟨t, n, ht, rfl, hscope⟩ := templateOfList_some hread
    have hscope : s'.scope = s.scope := hscope
    rw [enterList_templated htemplate, start_eq, hscope]
    exact ⟨t, n, ht, rfl, scope_resolve ..⟩

end Walk

namespace OuterElement
variable {got : Nat → Bool} {e : OuterElement} {source : String}

theorem request_of_template (hsup : e.suppressed = false) (h : e.template? = some source) :
    e.attrs.request.source? = some source := by
  have hsup : (takeBoth "li" e.attrs).suppressed = false := e.suppressed_takeBoth.trans hsup
  have hsource : (takeBoth "li" e.attrs).source = some source := h
  rw [Attrs.request, hsup, hsource]
  rfl

end OuterElement

namespace Moment
variable {got : Nat → Bool} {m : Moment} {e e' : OuterElement} {source : String}

/-- A template that an element asks for begins the series in which it is numbered. -/
theorem creates_of_directive (h : m.directive? = some source) (hend : m.after.failure = none) :
    m.Creates source := by
  obtain ⟨t, n, kind, styled, ht, hlabelled, hscope⟩ := opened_of_directive h hend
  obtain ⟨gone, hsh⟩ := m.event.shrinks_lookup m.before.scope
  have hsize : m.lookup.roster.series.size = m.before.scope.roster.series.size := hsh.size
  have hview := Scope.view?_opened_first m.lookup m.current? kind ⟨t, n, 0⟩ styled
  rw [← hscope] at hview
  obtain ⟨v, hv, hunlinked⟩ := Roster.get?_of_view? hview
  refine ⟨t, n, _, v, ht, Or.inl hlabelled, ?_, hv, ?_⟩
  · rw [hsize]
    exact (Roster.get?_eq_none_iff _ _).2 (Nat.lt_irrefl _)
  · exact congrArg Series.template hunlinked

/-- A template that is read begins a series, unless it stops the run. -/
theorem Treats.creates (h : m.Treats got e e') (hsource : e.read? got = some source)
    (hend : m.after.failure = none) : m.Creates source := by
  cases h with
  | heading attrs label list hk =>
    rw [OuterElement.read?_heading hk, Option.ite_none_left_eq_some, Bool.not_eq_true] at hsource
    exact creates_of_directive (OuterElement.request_of_template hsource.1 hsource.2) hend
  | item kind l attrs label hgot =>
    rw [OuterElement.read?_other Draft.ofTag?_li, Option.ite_none_right_eq_some, Bool.and_eq_true,
      Bool.not_eq_true'] at hsource
    exact creates_of_directive (OuterElement.request_of_template hsource.1.2 hsource.2) hend
  | element attrs label hk hlist =>
    rw [OuterElement.read?_other hk, hlist] at hsource
    cases hsource
  | @list d s kind tag attrs attrs' label list hk hlist hdressed hbare =>
    rw [OuterElement.read?_list hk hlist] at hsource
    obtain ⟨t, n, ht, hbegins, hscope⟩ := opened_enterList hsource hend
    have hview := (Scope.view?_opened s.scope none kind ⟨t, n, 0⟩ d.styled s.scope.roster.series.size).trans
      (if_pos rfl)
    obtain ⟨v, hv, hunlinked⟩ := Roster.get?_of_view? hview
    refine ⟨t, n, _, v, ht, Or.inr hbegins, (Roster.get?_eq_none_iff _ _).2 (Nat.lt_irrefl _), ?_, ?_⟩
    · exact (congrArg (fun scope : Scope => scope.roster.get? s.scope.roster.series.size) hscope).trans hv
    · exact congrArg Series.template hunlinked

end Moment

/-! ## What there is to say about the others -/

namespace OuterElement
variable {got : Nat → Bool} {e : OuterElement} {source : String}

/-- About a directive with two forms there is a warning. -/
theorem duplicate_mem_warnings (d : Directive) (hname : e.attrs.has d.name) (hlong : e.attrs.has d.longName) :
    .duplicate e.tag d.name d.longName ∈ e.warnings got := by
  have hmem : .duplicate e.tag d.name d.longName ∈ e.duplicates d := by
    rw [duplicates, hname, hlong]
    exact List.mem_singleton.2 rfl
  rw [warnings]
  split
  · cases d <;> simp [hmem]
  · cases d <;> simp [hmem]
  · split
    · cases d <;> simp [hmem]
    · split <;> cases d <;> simp [hmem]

theorem template?_of_read (h : e.read? got = some source) : e.template? = some source := by
  rw [read?] at h
  split at h
  · exact (Option.ite_none_left_eq_some.1 h).2
  · exact h
  · exact (Option.ite_none_right_eq_some.1 h).2

/-- About a template that is not read there is a warning. -/
theorem template_mem_warnings (h : e.template? = some source) (hread : e.read? got = none) :
    .misplaced e.tag Directive.label.name ∈ e.warnings got ∨
      .conflicting e.tag Directive.noLabel.name ∈ e.warnings got := by
  have htemplate : e.template?.isSome = true := by rw [h]; rfl
  cases hk : ElementKind.ofTag? e.tag with
  | some kind =>
    by_cases hlist : kind.isList
    · rw [read?_list hk hlist, h] at hread
      cases hread
    · obtain ⟨level, rfl⟩ := ElementKind.exists_heading hlist
      rw [read?_heading hk, h] at hread
      have hsup : e.suppressed = true := by
        by_contra hsup
        rw [if_neg hsup] at hread
        cases hread
      rw [warnings, hk, htemplate, hsup]
      exact Or.inr (List.mem_append_right _ (List.mem_singleton.2 rfl))
  | none =>
    rw [warnings, hk, htemplate]
    cases hgot : e.list.any got with
    | true =>
      rw [read?_other hk, hgot, h] at hread
      have hsup : e.suppressed = true := by
        by_contra hsup
        rw [Bool.not_eq_true] at hsup
        rw [hsup] at hread
        cases hread
      rw [hsup]
      exact Or.inr (List.mem_append_right _ (List.mem_singleton.2 rfl))
    | false =>
      refine Or.inl ?_
      dsimp only
      rw [if_neg Bool.false_ne_true]
      split
      · exact List.mem_append_left _ (List.mem_append_right _ (List.mem_singleton.2 rfl))
      · exact List.mem_append_left _ (List.mem_append_right _ (List.mem_singleton.2 rfl))

/-- An element that has lost its directives, and of which nothing else has changed but classes and counter
resets. -/
structure Loses (e e' : OuterElement) : Prop where
  tag : e'.tag = e.tag
  undirected : e'.attrs.Undirected
  kept : e.attrs.Kept e'.attrs

/-- At the moment the walk is at the element. A directive with two forms has a warning. The template of the element
begins a series, or there is a warning that the element cannot have it or shall have no label. -/
structure Accounted (got : Nat → Bool) (e : OuterElement) (m : Moment) : Prop where
  element : m.event.element? = some (e.tag, e.attrs)
  duplicate : ∀ d : Directive, e.attrs.has d.name → e.attrs.has d.longName →
    .duplicate e.tag d.name d.longName ∈ e.warnings got
  template : ∀ source, e.template? = some source → m.Creates source ∨
    .misplaced e.tag Directive.label.name ∈ e.warnings got ∨
    .conflicting e.tag Directive.noLabel.name ∈ e.warnings got

end OuterElement

namespace Moment
variable {got : Nat → Bool} {m : Moment} {e e' : OuterElement}

theorem Treats.kept (h : m.Treats got e e') : (takeBoth e.tag e.attrs).attrs.Kept e'.attrs := by
  cases h with
  | heading attrs label list hk =>
    rw [attrs_enterHeading]
    exact .refl _
  | list label list hk hlist hdressed =>
    rw [attrs_enterList] at hdressed
    exact hdressed.kept
  | item kind l attrs label hgot => exact (kept_enterItem _ kind l "li" attrs _).1
  | element attrs label hk hlist =>
    rw [attrs_enterElement]
    exact .refl _

theorem Treats.loses (h : m.Treats got e e') : e.Loses e' where
  tag := by cases h <;> rfl
  undirected := (undirected_takeBoth e.tag e.attrs).kept h.kept
  kept := (kept_takeBoth e.tag e.attrs).trans h.kept

theorem Treats.accounted (h : m.Treats got e e') (hend : m.after.failure = none) : e.Accounted got m where
  element := h.element?_eq
  duplicate := OuterElement.duplicate_mem_warnings
  template source hsource := by
    cases hread : e.read? got with
    | none => exact Or.inr (OuterElement.template_mem_warnings hsource hread)
    | some source' =>
      cases (OuterElement.template?_of_read hread).symm.trans hsource
      exact Or.inl (h.creates hread hend)

end Moment

/-! ## Runs -/

/-- Where a run succeeds, all elements outside of the content of headings have lost their directives, and of each
nothing else has changed but classes and counter resets. The warnings are those about the elements, in document
order. They tell of every directive with two forms, and of every template that has not begun the series of its
heading, list or item. -/
theorem Labelling.directives_consumed (l : Labelling) (c : Template.Context) (doc : Node) {report : LabelReport}
    (h : (l.apply c doc).result = .ok report) :
    ∃ es, doc.Relabelled l.typeset es [(l.apply c doc).document] ∧
      List.Forall₂ OuterElement.Loses doc.outerElements es ∧
      report.warnings = doc.outerElements.flatMap (OuterElement.warnings (l.gotTemplate c doc)) ∧
      List.Forall₂ (OuterElement.Accounted (l.gotTemplate c doc)) doc.outerElements (l.stops c doc) := by
  obtain ⟨d, c', out, s, hread, -, hdraft, hrun, rfl⟩ := exists_walk h
  have hend : (l.draft c (.ofNode doc)).state.failure = none := by rw [hdraft, hrun]
  obtain ⟨front, front', back, hfront, hfront', htreated, hback⟩ := l.ledger c doc
  rw [hback hend, List.append_nil] at hfront hfront'
  have hreports := htreated.reports (trace_of_read hread doc) rfl
  rw [← hfront] at htreated hreports
  refine ⟨front', hfront' ▸ l.relabelled c doc hread, htreated.forall₂ fun m _ e e' hm => hm.loses, ?_, ?_⟩
  · rw [hdraft] at hreports
    exact hreports.warnings
  · exact htreated.forall₂_stops fun m hmem e e' hm => hm.accounted (l.moments_running_after c doc hend m hmem)

/-- A heading with two labels takes the first, one without a label drops its template, and an item of a list without
labels and a paragraph cannot have any. -/
theorem Labelling.directives_consumed_everywhere :
    let l : Labelling := { settings := { orderedLabels := some "1" } }
    let doc : Node := .root
      [.element "h1" [("-label", "1"), ("md-label", "a")] [],
       .element "h2" [("-label", "1"), ("md-no-label", "")] [],
       .element "ol" [] [.element "li" [("md-label", "i")] []],
       .element "ul" [] [.element "li" [("-label", "1")] []],
       .element "p" [("-label", "1"), ("id", "x")] []]
    ∃ report es, (l.apply {} doc).result = .ok report ∧
      report.warnings = [.duplicate "h1" "-label" "md-label", .conflicting "h2" "-no-label",
        .misplaced "li" "-label", .misplaced "p" "-label"] ∧
      doc.Relabelled l.typeset es [(l.apply {} doc).document] ∧
      List.Forall₂ OuterElement.Loses doc.outerElements es ∧
      List.Forall₂ (OuterElement.Accounted (l.gotTemplate {} doc)) doc.outerElements (l.stops {} doc) := by
  intro l doc
  have hwarnings : (l.apply {} doc).result.toOption.map LabelReport.warnings =
      some [.duplicate "h1" "-label" "md-label", .conflicting "h2" "-no-label", .misplaced "li" "-label",
        .misplaced "p" "-label"] := by decide +kernel
  cases hresult : (l.apply {} doc).result with
  | error e =>
    rw [hresult] at hwarnings
    cases hwarnings
  | ok report =>
    rw [hresult] at hwarnings
    obtain ⟨es, hrelabelled, hloses, -, haccounted⟩ := directives_consumed l {} doc hresult
    exact ⟨report, es, rfl, Option.some.inj hwarnings, hrelabelled, hloses, haccounted⟩

end Rubric
