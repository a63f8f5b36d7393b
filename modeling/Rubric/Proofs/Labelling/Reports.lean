import Rubric.Proofs.Labelling.Treatment

/-!
# What a run says about an element

* `State.Quiet` : a change that adds no warning and does not stop the run;
* `State.Gives` : a reader that fails with a given error, or else gives a value;
* `TemplateOrigin.error?` : the error in a template; `gives_*` : with it fail the readers of templates;
* `OuterElement.template?`, `suppressed` : the directives of an element;
* `OuterElement.read?` : the template that a run reads there, wherever it comes to the element;
* `OuterElement.warnings`, `error?` : what it says about the element;
* `Moment.Treats.reports` : a moment at the element says this, and nothing else; `Treats.failed` : with an error the
  element loses its directives and gets no label;
* `Treated.reports` : so do many moments, up to the first error.
-/

namespace Rubric
open Walk

/-! ## Tags -/

theorem ElementKind.tag_of_heading {tag : String} {level : HeadingLevel}
    (h : ofTag? tag = some (.heading level)) : level.tag = tag := by
  have hdigits : ∀ n < 7, (toString n).toList = [Nat.digitChar n] := by decide
  have hlevel : headingLevel? tag = some level := by
    rw [ofTag?] at h
    split at h
    · cases h
    · split at h
      · cases h
      · obtain ⟨level', hlevel, heq⟩ := Option.map_eq_some_iff.1 h
        cases heq
        exact hlevel
  rw [headingLevel?] at hlevel
  split at hlevel
  · rename_i digit htag
    rw [HeadingLevel.ofDigit?] at hlevel
    split at hlevel
    · rename_i hdigit
      have hnumber : level.number = digit.toNat - 48 := HeadingLevel.number_of_ofNat? hlevel
      have hone := level.one_le
      have hsix := level.le_six
      have hchar : Nat.digitChar level.number = digit := by
        refine Char.toNat_inj.1 ?_
        rw [Nat.toNat_digitChar_of_lt_ten (by omega)]
        omega
      refine String.toList_inj.1 ?_
      rw [HeadingLevel.tag, String.toList_append, hdigits _ (Nat.lt_succ_of_le hsix), hchar, htag]
      rfl
    · cases hlevel
  · cases hlevel

/-! ## Changes that say nothing -/

namespace State
variable {s t u : State}

/-- A change that adds no warning and does not stop the run. -/
structure Quiet (s t : State) : Prop where
  warnings : t.warnings = s.warnings
  failure : t.failure = s.failure

theorem Quiet.refl (s : State) : Quiet s s := ⟨rfl, rfl⟩

theorem Quiet.trans (h : Quiet s t) (h' : Quiet t u) : Quiet s u :=
  ⟨h'.warnings.trans h.warnings, h'.failure.trans h.failure⟩

theorem quiet_resolve (s : State) (attrs : Attrs) : Quiet s (s.resolve attrs) := by
  rw [resolve]
  split
  · exact .refl s
  · exact ⟨rfl, rfl⟩

theorem quiet_increment (s : State) (id : SeriesId) : Quiet s (s.increment id) := ⟨rfl, rfl⟩

theorem quiet_addRules (s : State) (rules : List Rule) : Quiet s (s.addRules rules) := ⟨rfl, rfl⟩

theorem quiet_start (s : State) (kind : ElementKind) (template : Template.Instance) (styled : Bool) :
    Quiet s (s.start kind template styled).2 := ⟨rfl, rfl⟩

theorem quiet_replace (s : State) (old : SeriesId) (kind : ElementKind) (template : Template.Instance)
    (styled : Bool) : Quiet s (s.replace old kind template styled).2 := ⟨rfl, rfl⟩

theorem quiet_readDirective (s : State) (tag : String) (source : Option String) :
    Quiet s (s.readDirective tag source).2 := ⟨rfl, rfl⟩

/-- A reader that fails with the given error, or gives a value if there is none. It says nothing. -/
inductive Gives {α : Type} (s : State) : Option LabelError → Except LabelError α × State → Prop where
  | ok (a : α) {t : State} (h : Quiet s t) : Gives s none (.ok a, t)
  | error (e : LabelError) {t : State} (h : Quiet s t) : Gives s (some e) (.error e, t)

theorem Gives.of_ok {α : Type} {a : α} {err : Option LabelError} (h : Gives s err (.ok a, t)) :
    err = none ∧ Quiet s t := by
  cases h with
  | ok _ h => exact ⟨rfl, h⟩

theorem Gives.of_error {α : Type} {e : LabelError} {err : Option LabelError}
    (h : Gives s err ((.error e : Except LabelError α), t)) : err = some e ∧ Quiet s t := by
  cases h with
  | error _ h => exact ⟨rfl, h⟩

/-- A change that adds these warnings, and leaves the run stopped by the error if there is one. -/
structure Reports (s : State) (ws : List Warning) (err : Option LabelError) (t : State) : Prop where
  warnings : t.warnings = s.warnings ++ ws
  failure : t.failure = err

theorem Reports.quiet {ws : List Warning} {err : Option LabelError} (h : Reports s ws err t) (h' : Quiet t u) :
    Reports s ws err u := ⟨h'.warnings.trans h.warnings, h'.failure.trans h.failure⟩

theorem Reports.stop {ws : List Warning} {err : Option LabelError} (h : Reports s ws err t) (e : LabelError) :
    Reports s ws (some e) (t.stop e) := ⟨h.warnings, rfl⟩

theorem Reports.warn {ws : List Warning} {err : Option LabelError} (h : Reports s ws err t)
    (more : List Warning) : Reports s (ws ++ more) err (t.warn more) :=
  ⟨by rw [State.warn, h.warnings, List.append_assoc], h.failure⟩

theorem reports_warn (hs : s.failure = none) (ws : List Warning) : Reports s ws none (s.warn ws) := ⟨rfl, hs⟩

end State

/-! ## Readers of templates -/

/-- The error in a template. -/
def TemplateOrigin.error? (origin : TemplateOrigin) (source : String) : Option LabelError :=
  match Template.parse source with
  | .ok _ => none
  | .error e => some (.template origin e)

theorem Template.Context.read_cases (c : Context) (origin : TemplateOrigin) (source : Option String) :
    (∃ i c', source.bind origin.error? = none ∧ c.read origin source = (.ok i, c')) ∨
      ∃ e c', source.bind origin.error? = some e ∧ c.read origin source = (.error e, c') := by
  cases source with
  | none => exact Or.inl ⟨none, c, rfl, rfl⟩
  | some source =>
    rw [Option.bind_some, TemplateOrigin.error?, read, parse]
    cases Template.parse source with
    | ok t => exact Or.inl ⟨_, _, rfl, rfl⟩
    | error e => exact Or.inr ⟨_, _, rfl, rfl⟩

namespace State
variable (s : State)

theorem gives_readDirective (tag : String) (source : Option String) :
    s.Gives (source.bind (TemplateOrigin.directive tag).error?) (s.readDirective tag source) := by
  have hquiet := quiet_readDirective s tag source
  rw [readDirective] at hquiet ⊢
  rcases s.context.read_cases (.directive tag) source with ⟨i, c', hnone, hread⟩ | ⟨e, c', hsome, hread⟩
  · rw [hread] at hquiet ⊢
    rw [hnone]
    exact .ok i hquiet
  · rw [hread] at hquiet ⊢
    rw [hsome]
    exact .error e hquiet

theorem gives_headingSeries (d : Defaults) (level : HeadingLevel) (source : Option String) :
    s.Gives (source.bind (TemplateOrigin.directive level.tag).error?) (s.headingSeries d level source) := by
  have hread := s.gives_readDirective level.tag source
  rw [headingSeries]
  generalize s.readDirective level.tag source = r, source.bind _ = err at hread ⊢
  cases hread with
  | error e h => exact .error e h
  | ok directive h =>
    dsimp only
    split
    · exact .ok _ h
    · exact .ok _ (h.trans (quiet_replace ..))
    · split
      · exact .ok _ h
      · exact .ok _ (h.trans (quiet_start ..))

theorem gives_templateOfList (d : Defaults) (kind : ElementKind) (tag : String) (source : Option String) :
    s.Gives (source.bind (TemplateOrigin.directive tag).error?) (s.templateOfList d kind tag source) := by
  have hread := s.gives_readDirective tag source
  rw [templateOfList]
  generalize s.readDirective tag source = r, source.bind _ = err at hread ⊢
  cases hread with
  | error e h => exact .error e h
  | ok template h =>
    cases template with
    | none => exact .ok _ h
    | some template => exact .ok _ h

end State

/-! ## What is said about an element -/

namespace OuterElement
variable (got : Nat → Bool) (e : OuterElement)

def template? : Option String := e.attrs.get? Directive.label.name <|> e.attrs.get? Directive.label.longName

def suppressed : Bool :=
  (e.attrs.get? Directive.noLabel.name <|> e.attrs.get? Directive.noLabel.longName).isSome

/-- The label template that is read, if the lists at the places `got` get templates: that of a heading that may have
a label, of a list, and of an item of such a list that may have a label. -/
def read? : Option String :=
  match ElementKind.ofTag? e.tag with
  | some (.heading _) => if e.suppressed then none else e.template?
  | some _ => e.template?
  | none => if e.list.any got && !e.suppressed then e.template? else none

variable {got e}

theorem read?_heading {level : HeadingLevel} (hk : ElementKind.ofTag? e.tag = some (.heading level)) :
    e.read? got = if e.suppressed then none else e.template? := by
  rw [read?, hk]

theorem read?_list {kind : ElementKind} (hk : ElementKind.ofTag? e.tag = some kind) (hlist : kind.isList) :
    e.read? got = e.template? := by
  rw [read?, hk]
  cases kind with
  | heading => cases hlist
  | orderedList | unorderedList => rfl

theorem read?_other (hk : ElementKind.ofTag? e.tag = none) :
    e.read? got = if e.list.any got && !e.suppressed then e.template? else none := by
  rw [read?, hk]

variable (got e)

/-- The error that stops a run at the element. -/
def error? : Option LabelError := (e.read? got).bind (TemplateOrigin.directive e.tag).error?

def duplicates (d : Directive) : List Warning :=
  if e.attrs.has d.name && e.attrs.has d.longName then [.duplicate e.tag d.name d.longName] else []

/-- The warnings about the element. -/
def warnings : List Warning :=
  let conflicts := if e.suppressed && e.template?.isSome then [conflict e.tag] else []
  let misplacedLabel := if e.template?.isSome then [Directive.label.misplaced e.tag] else []
  let misplacedNoLabel := if e.suppressed then [Directive.noLabel.misplaced e.tag] else []
  match ElementKind.ofTag? e.tag with
  | some (.heading _) => e.duplicates .label ++ e.duplicates .noLabel ++ conflicts
  | some _ => e.duplicates .label ++ (e.duplicates .noLabel ++ misplacedNoLabel)
  | none =>
    if e.list.any got then e.duplicates .label ++ e.duplicates .noLabel ++ conflicts
    else if e.tag = "li" then e.duplicates .label ++ misplacedLabel ++ e.duplicates .noLabel
    else e.duplicates .label ++ misplacedLabel ++ (e.duplicates .noLabel ++ misplacedNoLabel)

end OuterElement

/-! ## Elements that lose their directives -/

namespace OuterElement
variable (e : OuterElement)

theorem get?_take_label {name : String} (h : name ∈ [Directive.noLabel.name, Directive.noLabel.longName]) :
    (Directive.label.take e.tag e.attrs).attrs.get? name = e.attrs.get? name := by
  rw [Directive.take, Attrs.get?_erase_of_ne _ (by rintro rfl; revert h; decide),
    Attrs.get?_erase_of_ne _ (by rintro rfl; revert h; decide)]

theorem source_takeBoth : (takeBoth e.tag e.attrs).source = e.template? := rfl

theorem suppressed_takeBoth : (takeBoth e.tag e.attrs).suppressed = e.suppressed := by
  rw [takeBoth, suppressed]
  dsimp only
  rw [Directive.value_take, get?_take_label e (by simp), get?_take_label e (by simp)]

theorem warnings_take_noLabel :
    (Directive.noLabel.take e.tag (Directive.label.take e.tag e.attrs).attrs).warnings = e.duplicates .noLabel := by
  have hname := get?_take_label e (List.mem_cons_self ..)
  have hlong := get?_take_label e (List.mem_cons_of_mem _ (List.mem_cons_self ..))
  rw [Directive.take, duplicates, Attrs.has, Attrs.has, Attrs.has, Attrs.has, hname, hlong]

theorem warnings_takeBoth :
    (takeBoth e.tag e.attrs).warnings = e.duplicates .label ++ e.duplicates .noLabel :=
  congrArg (e.duplicates .label ++ ·) e.warnings_take_noLabel

end OuterElement

theorem undirected_takeBoth (tag : String) (attrs : Attrs) : (takeBoth tag attrs).attrs.Undirected := by
  have hkept := (Attrs.Kept.refl (Directive.label.take tag attrs).attrs).take .noLabel tag
  have hgone : ∀ name ∈ [Directive.label.name, Directive.label.longName],
      (Directive.label.take tag attrs).attrs.get? name = none → (takeBoth tag attrs).attrs.get? name = none := by
    intro name hname hnone
    exact (hkept.directive .label name hname).elim id fun h => h.trans hnone
  rintro (_ | _) -
  · exact ⟨hgone _ (by simp) (Directive.get?_name_take ..), hgone _ (by simp) (Directive.get?_longName_take ..)⟩
  · exact ⟨Directive.get?_name_take .noLabel tag _, Directive.get?_longName_take .noLabel tag _⟩

theorem Attrs.Undirected.kept {attrs attrs' : Attrs} (h : attrs.Undirected) (hkept : attrs.Kept attrs') :
    attrs'.Undirected := by
  intro d hd
  obtain ⟨hname, hlong⟩ := h d hd
  exact ⟨(hkept.directive d _ (by simp)).elim id fun heq => heq.trans hname,
    (hkept.directive d _ (by simp)).elim id fun heq => heq.trans hlong⟩

/-! ## Moments -/

namespace Walk
open State
variable {got : Nat → Bool} {d : Defaults} {s : State} (e : OuterElement)

/-- What is said about a heading. With an error it gets no label. -/
theorem reports_enterHeading {level : HeadingLevel} (hk : ElementKind.ofTag? e.tag = some (.heading level))
    (hs : s.failure = none) :
    s.Reports (e.warnings got) (e.error? got) (enterHeading d level e.tag e.attrs s).state ∧
      (e.error? got ≠ none → (enterHeading d level e.tag e.attrs s).label = none) := by
  have hclosed : s.Reports (e.duplicates .label ++ e.duplicates .noLabel) none (closed level e.tag e.attrs s) := by
    rw [← e.warnings_takeBoth]
    exact ⟨rfl, hs⟩
  rw [OuterElement.warnings, OuterElement.error?, OuterElement.read?_heading hk, hk]
  dsimp only
  cases hsup : e.suppressed with
  | true =>
    rw [enterHeading_unlabelled (e.suppressed_takeBoth.trans hsup)]
    exact ⟨(hclosed.warn _).quiet (quiet_resolve ..), fun _ => rfl⟩
  | false =>
    simp only [Bool.false_and, Bool.false_eq_true, if_false, List.append_nil]
    have hnot := e.suppressed_takeBoth.trans hsup
    have hgives := (closed level e.tag e.attrs s).gives_headingSeries d level (takeBoth e.tag e.attrs).source
    rw [ElementKind.tag_of_heading hk] at hgives
    rcases hseries : (closed level e.tag e.attrs s).headingSeries d level (takeBoth e.tag e.attrs).source
      with ⟨err | _ | id, s'⟩ <;> rw [hseries] at hgives
    · obtain ⟨herr, hquiet⟩ := hgives.of_error
      rw [enterHeading_failed hnot hseries, ← e.source_takeBoth, herr]
      exact ⟨(hclosed.quiet hquiet).stop err, fun _ => rfl⟩
    · obtain ⟨herr, hquiet⟩ := hgives.of_ok
      rw [enterHeading_bare hnot hseries, ← e.source_takeBoth, herr]
      exact ⟨hclosed.quiet (hquiet.trans (quiet_resolve ..)), fun _ => rfl⟩
    · obtain ⟨herr, hquiet⟩ := hgives.of_ok
      rw [enterHeading_labelled hnot hseries, ← e.source_takeBoth, herr]
      exact ⟨(hclosed.quiet hquiet).quiet ((quiet_increment ..).trans (quiet_resolve ..)), fun h => absurd rfl h⟩

theorem quiet_drawItem (d : Defaults) (l : ListState) (attrs : Attrs) (s : State) :
    Quiet s (drawItem d l attrs s).1.state := by
  rw [drawItem]
  exact ((quiet_increment s l.series).trans (quiet_addRules ..)).trans (quiet_resolve ..)

/-- What is said about an item of a list with a template. With an error it loses its directives and gets nothing. -/
theorem reports_enterItem (hk : ElementKind.ofTag? e.tag = none) (hgot : e.list.any got = true)
    (kind : ElementKind) (l : ListState) (hs : s.failure = none) :
    s.Reports (e.warnings got) (e.error? got) (enterItem d kind l e.tag e.attrs s).1.state ∧
      (e.error? got ≠ none → (enterItem d kind l e.tag e.attrs s).1.attrs = (takeBoth e.tag e.attrs).attrs ∧
        (enterItem d kind l e.tag e.attrs s).1.label = none) := by
  have hwarn := reports_warn hs (e.duplicates .label ++ e.duplicates .noLabel)
  rw [← e.warnings_takeBoth] at hwarn
  rw [OuterElement.warnings, OuterElement.error?, OuterElement.read?_other hk, hk]
  dsimp only
  rw [hgot, if_pos rfl, ← e.warnings_takeBoth]
  cases hsup : e.suppressed with
  | true =>
    rw [enterItem_unlabelled (e.suppressed_takeBoth.trans hsup)]
    exact ⟨(hwarn.warn _).quiet (quiet_resolve ..), fun h => absurd rfl h⟩
  | false =>
    simp only [Bool.false_and, Bool.false_eq_true, if_false, List.append_nil, Bool.not_false, Bool.and_self,
      if_true]
    have hnot := e.suppressed_takeBoth.trans hsup
    have hgives := (s.warn (takeBoth e.tag e.attrs).warnings).gives_readDirective e.tag
      (takeBoth e.tag e.attrs).source
    rcases hread : (s.warn (takeBoth e.tag e.attrs).warnings).readDirective e.tag (takeBoth e.tag e.attrs).source
      with ⟨err | _ | template, s'⟩ <;> rw [hread] at hgives
    · obtain ⟨herr, hquiet⟩ := hgives.of_error
      rw [enterItem_failed hnot hread, ← e.source_takeBoth, herr]
      exact ⟨(hwarn.quiet hquiet).stop err, fun _ => ⟨rfl, rfl⟩⟩
    · obtain ⟨herr, hquiet⟩ := hgives.of_ok
      rw [enterItem_drawn hnot hread, ← e.source_takeBoth, herr]
      exact ⟨(hwarn.quiet hquiet).quiet (quiet_drawItem ..), fun h => absurd rfl h⟩
    · obtain ⟨herr, hquiet⟩ := hgives.of_ok
      rw [enterItem_replaced hnot hread, ← e.source_takeBoth, herr]
      exact ⟨((hwarn.quiet hquiet).quiet (quiet_replace ..)).quiet (quiet_drawItem ..), fun h => absurd rfl h⟩

theorem reports_enterElement (hk : ElementKind.ofTag? e.tag = none) (hgot : e.list.any got = false)
    (hs : s.failure = none) :
    s.Reports (e.warnings got) (e.error? got) (enterElement e.tag e.attrs s).state := by
  rw [OuterElement.warnings, OuterElement.error?, OuterElement.read?_other hk, hk, ← e.warnings_take_noLabel,
    ← e.suppressed_takeBoth]
  dsimp only
  rw [hgot, enterElement]
  simp only [Bool.false_and, Bool.false_eq_true, if_false]
  by_cases hli : e.tag = "li"
  · simp only [if_pos hli]
    exact (reports_warn hs _).quiet (quiet_resolve ..)
  · simp only [if_neg hli]
    exact (reports_warn hs _).quiet (quiet_resolve ..)

/-- The state in which a list looks for its template. -/
def noticed (tag : String) (attrs : Attrs) (s : State) : State :=
  let label := Directive.label.take tag attrs
  s.warn (label.warnings ++ (Directive.noLabel.discard tag label.attrs).2)

section
variable {kind : ElementKind} {tag : String} {attrs : Attrs} {s' : State}

theorem enterList_failed {err : LabelError}
    (h : (noticed tag attrs s).templateOfList d kind tag (takeBoth tag attrs).source = (.error err, s')) :
    enterList d kind tag attrs s = ((takeBoth tag attrs).attrs, none, s'.stop err) := by
  have h : (s.warn _).templateOfList d kind tag (Directive.label.take tag attrs).value = _ := h
  rw [enterList]
  dsimp only
  rw [h]
  rfl

theorem enterList_untemplated
    (h : (noticed tag attrs s).templateOfList d kind tag (takeBoth tag attrs).source = (.ok none, s')) :
    enterList d kind tag attrs s =
      ((takeBoth tag attrs).attrs, none, s'.resolve (takeBoth tag attrs).attrs) := by
  have h : (s.warn _).templateOfList d kind tag (Directive.label.take tag attrs).value = _ := h
  rw [enterList]
  dsimp only
  rw [h]
  dsimp only
  rw [show (Directive.noLabel.discard tag (Directive.label.take tag attrs).attrs).1 = (takeBoth tag attrs).attrs
    from rfl, enterElement_of_undirected (undirected_takeBoth tag attrs)]

theorem enterList_templated {template : Template.Instance}
    (h : (noticed tag attrs s).templateOfList d kind tag (takeBoth tag attrs).source = (.ok (some template), s')) :
    enterList d kind tag attrs s =
      ((takeBoth tag attrs).attrs, some { series := (s'.start kind template d.styled).1 },
        (s'.start kind template d.styled).2.resolve (takeBoth tag attrs).attrs) := by
  have h : (s.warn _).templateOfList d kind tag (Directive.label.take tag attrs).value = _ := h
  rw [enterList]
  dsimp only
  rw [h]
  rfl

end

/-- What is said about a list. With an error it gets no series. -/
theorem reports_enterList {kind : ElementKind} (hk : ElementKind.ofTag? e.tag = some kind) (hlist : kind.isList)
    (hs : s.failure = none) :
    s.Reports (e.warnings got) (e.error? got) (enterList d kind e.tag e.attrs s).2.2 ∧
      (e.error? got ≠ none → (enterList d kind e.tag e.attrs s).2.1 = none) := by
  have hnoticed : s.Reports (e.warnings got) none (noticed e.tag e.attrs s) := by
    refine ⟨?_, hs⟩
    rw [OuterElement.warnings, hk, ← e.warnings_take_noLabel, ← e.suppressed_takeBoth]
    cases kind with
    | heading => cases hlist
    | orderedList | unorderedList => rfl
  rw [OuterElement.error?, OuterElement.read?_list hk hlist, ← e.source_takeBoth]
  have hgives := (noticed e.tag e.attrs s).gives_templateOfList d kind e.tag (takeBoth e.tag e.attrs).source
  rcases htemplate : (noticed e.tag e.attrs s).templateOfList d kind e.tag (takeBoth e.tag e.attrs).source
    with ⟨err | _ | template, s'⟩ <;> rw [htemplate] at hgives
  · obtain ⟨herr, hquiet⟩ := hgives.of_error
    rw [enterList_failed htemplate, herr]
    exact ⟨(hnoticed.quiet hquiet).stop err, fun _ => rfl⟩
  · obtain ⟨herr, hquiet⟩ := hgives.of_ok
    rw [enterList_untemplated htemplate, herr]
    exact ⟨hnoticed.quiet (hquiet.trans (quiet_resolve ..)), fun _ => rfl⟩
  · obtain ⟨herr, hquiet⟩ := hgives.of_ok
    rw [enterList_templated htemplate, herr]
    exact ⟨hnoticed.quiet ((hquiet.trans (quiet_start ..)).trans (quiet_resolve ..)), fun h => absurd rfl h⟩

theorem attrs_enterList (d : Defaults) (kind : ElementKind) (tag : String) (attrs : Attrs) (s : State) :
    (enterList d kind tag attrs s).1 = (takeBoth tag attrs).attrs := by
  rcases htemplate : (noticed tag attrs s).templateOfList d kind tag (takeBoth tag attrs).source
    with ⟨err | _ | template, s'⟩
  · rw [enterList_failed htemplate]
  · rw [enterList_untemplated htemplate]
  · rw [enterList_templated htemplate]

theorem quiet_leaveItem (l : ListState) (s : State) : Quiet s (leaveItem l s) := by
  rw [leaveItem]
  split
  · exact .refl s
  · exact ⟨rfl, rfl⟩

theorem quiet_leaveList (l : ListState) (s : State) : Quiet s (leaveList l s) := by
  rw [leaveList]
  split
  · exact .refl s
  · exact ⟨rfl, rfl⟩

end Walk

namespace Moment
variable {got : Nat → Bool} {m : Moment} {e e' : OuterElement}

/-- A moment at an element says what there is to say about the element. -/
theorem Treats.reports (h : m.Treats got e e') (hs : m.before.failure = none) :
    m.before.Reports (e.warnings got) (e.error? got) m.after := by
  cases h with
  | heading attrs label list hk => exact (reports_enterHeading ⟨_, attrs, label, list⟩ hk hs).1
  | list label list hk hlist => exact (reports_enterList ⟨_, _, label, list⟩ hk hlist hs).1
  | item kind l attrs label hgot =>
    exact (reports_enterItem ⟨"li", attrs, label, some _⟩ Draft.ofTag?_li hgot kind l hs).1
  | element attrs label hk hlist =>
    exact reports_enterElement ⟨_, attrs, label, _⟩ hk hlist hs

/-- An element with an error loses its directives and gets no label. -/
theorem Treats.failed (h : m.Treats got e e') (hs : m.before.failure = none) (hlabel : e.label = none)
    (herr : e.error? got ≠ none) : e' = { e with attrs := (takeBoth e.tag e.attrs).attrs } := by
  cases h with
  | heading attrs label list hk =>
    cases hlabel
    rw [attrs_enterHeading, (reports_enterHeading ⟨_, attrs, none, list⟩ hk hs).2 herr]
  | list label list hk hlist hdressed hbare =>
    rw [hbare ((reports_enterList ⟨_, _, label, list⟩ hk hlist hs).2 herr), attrs_enterList]
  | item kind l attrs label hgot =>
    cases hlabel
    obtain ⟨hattrs, hlabel⟩ :=
      (reports_enterItem ⟨"li", attrs, none, some _⟩ Draft.ofTag?_li hgot kind l hs).2 herr
    rw [hattrs, hlabel]
  | element attrs label hk hlist => rw [attrs_enterElement]

theorem quiet_of_not_stop (h : m.isStop = false) : m.before.Quiet m.after := by
  obtain ⟨d, s, e⟩ := m
  cases e with
  | heading | list | item | element => cases h
  | leaveItem l => exact quiet_leaveItem l s
  | leaveList l => exact quiet_leaveList l s

end Moment

/-! ## Many moments -/

section
open State
variable {got : Nat → Bool} {d : Defaults} {s t : State} {ms : List Moment} {es es' : List OuterElement}

/-- The moments say what there is to say about the elements, up to the first one with an error. -/
theorem Treated.reports (h : Treated got ms es es') (htrace : Trace d s ms t) (hs : s.failure = none) :
    s.Reports (es.flatMap (OuterElement.warnings got)) (es.findSome? (OuterElement.error? got)) t := by
  induction h generalizing s with
  | nil =>
    cases htrace
    exact ⟨(List.append_nil _).symm, hs⟩
  | @leave m ms es es' hm _ ih =>
    cases htrace with
    | cons _ htrace =>
      have hquiet := Moment.quiet_of_not_stop hm
      have hrest := ih htrace (hquiet.failure.trans hs)
      exact ⟨hrest.warnings.trans (congrArg (· ++ _) hquiet.warnings), hrest.failure⟩
  | @stop m ms e e' es es' hm hes ih =>
    cases htrace with
    | cons _ htrace =>
      have hfirst := hm.reports hs
      cases herr : e.error? got with
      | none =>
        rw [herr] at hfirst
        have hrest := ih htrace hfirst.failure
        rw [List.flatMap_cons, List.findSome?_cons, herr]
        refine ⟨?_, hrest.failure⟩
        rw [hrest.warnings, ← List.append_assoc]
        exact congrArg (· ++ _) hfirst.warnings
      | some err =>
        -- there are no moments behind an error
        rw [herr] at hfirst
        cases htrace with
        | cons hrun => cases hrun.symm.trans hfirst.failure
        | nil =>
          cases hes
          rw [List.flatMap_singleton, List.findSome?_cons, herr]
          exact hfirst

end

/-! ## Runs -/

namespace Labelling
variable {l : Labelling} {c c' : Template.Context} {d : Defaults}

theorem trace_of_read (hread : Defaults.ofSettings c l.settings = (.ok d, c')) (doc : Node) :
    Trace d (begin c' ((Draft.ofNode doc).markRefs none)) (l.moments c doc) (l.draft c (.ofNode doc)).state := by
  rw [moments, draft, hread]
  exact Draft.walk_trace d _ _

end Labelling
end Rubric
