import Rubric.Proofs.Labelling.Frames

/-!
# The labels of one list

A list that no other list and no section is around, with a template that an item may replace.

* `Attrs.request` : what the directives of an item ask for;
* `ListLabel` : a label of the list: its template, its number, and whether its template is not the first;
* `ListLabel.labels` : the labels that a row of requests leads to;
* `State.Follows` : the series of the list has counted the items of a template;
* `Follows.silent`, `next`, `restart` : an item with each of the requests.
-/

namespace Rubric

/-! ## Requests -/

/-- What an item says about its label. -/
inductive Request where
  /-- The next number. -/
  | next
  /-- No label. -/
  | silent
  /-- The first number of a template. -/
  | restart (source : String)
deriving DecidableEq

/-- What the directives of an item ask for. No label outranks a template. -/
def Attrs.request (attrs : Attrs) : Request :=
  let ds := Walk.takeBoth "li" attrs
  if ds.suppressed then .silent else ds.source.elim .next .restart

def Attrs.undirected (attrs : Attrs) : Attrs := (Walk.takeBoth "li" attrs).attrs

/-- A label of a list. -/
structure ListLabel where
  /-- The source of its template. -/
  source : String
  number : Nat
  /-- The source of the first label of the list, if an item has asked for a template since then. -/
  outer : Option String := none
deriving DecidableEq

namespace ListLabel

def start (source : String) : ListLabel := { source, number := 0 }

/-- The label that stands after a request. -/
def after (l : ListLabel) : Request → ListLabel
  | .next => { l with number := l.number + 1 }
  | .silent => l
  | .restart source =>
    { source, number := 1, outer := if l.number = 0 then none else some (l.outer.getD l.source) }

/-- The labels that the items of a list have, if the last one before them is `l`. -/
def labels (l : ListLabel) : List Request → List (Option ListLabel)
  | [] => []
  | .silent :: rest => none :: labels l rest
  | r :: rest => some (l.after r) :: labels (l.after r) rest

/-- An item has asked for the template of the first label again. -/
def Repeats (l : ListLabel) : Prop := l.outer = some l.source

instance (l : ListLabel) : Decidable l.Repeats := inferInstanceAs (Decidable (_ = _))

end ListLabel

/-- The first segment of a template. -/
def Segment.ofSource (source : String) : Segment :=
  match Template.parse source with
  | .ok t => t.segment
  | .error _ => {}

/-- A segment with a number and nothing in front of it. -/
def Segment.shown (s : Segment) (n : Nat) : String :=
  s.before ++ s.style.elim "" (·.format n) ++ s.after

/-! ## Keys and places -/

theorem idxOf?_append_of_eq_some {α : Type} [BEq α] [LawfulBEq α] {xs : List α} {x : α} {n : Nat}
    (h : xs.idxOf? x = some n) (ys : List α) : (xs ++ ys).idxOf? x = some n := by
  rw [List.idxOf?, List.findIdx?_append]
  rw [List.idxOf?] at h
  rw [h, Option.some_or]

theorem idxOf?_concat_self {α : Type} [BEq α] [LawfulBEq α] {xs : List α} {x : α}
    (h : xs.idxOf? x = none) : (xs ++ [x]).idxOf? x = some xs.length := by
  rw [List.idxOf?] at h
  rw [List.idxOf?, List.findIdx?_append, h, Option.none_or]
  simp

theorem Roster.idxOf?_number (r : Roster) (key : SeriesKey) :
    (r.number key).2.keys.idxOf? key = some (r.number key).1 := by
  rw [number]
  cases h : r.keys.idxOf? key with
  | some n => exact h
  | none => exact idxOf?_concat_self h

theorem Template.Context.idxOf?_number (c : Context) (source : String) :
    (c.number source).2.sources.idxOf? source = some (c.number source).1 := by
  rw [number]
  cases h : c.sources.idxOf? source with
  | some n => exact h
  | none => exact idxOf?_concat_self h

/-- A source that can be read, and its number from then on. -/
theorem Template.Context.read_of_ok {source : String} {t : Template}
    (h : Template.parse source = .ok t) (c : Context) (origin : TemplateOrigin) :
    ∃ n c', c.read origin (some source) = (.ok (some ⟨t, n, 0⟩), c') ∧
      c'.sources.idxOf? source = some n := by
  refine ⟨(c.number source).1, (c.number source).2, ?_, c.idxOf?_number source⟩
  rw [read, parse, h]

/-! ## Directives of items -/

section
variable {attrs : Attrs}

theorem Attrs.suppressed_of_silent (h : attrs.request = .silent) :
    (Walk.takeBoth "li" attrs).suppressed = true := by
  rw [request] at h
  cases hs : (Walk.takeBoth "li" attrs).suppressed with
  | true => rfl
  | false => cases ht : (Walk.takeBoth "li" attrs).source <;> simp [hs, ht] at h

theorem Attrs.source_of_next (h : attrs.request = .next) :
    (Walk.takeBoth "li" attrs).suppressed = false ∧ (Walk.takeBoth "li" attrs).source = none := by
  rw [request] at h
  cases hs : (Walk.takeBoth "li" attrs).suppressed with
  | true => simp [hs] at h
  | false => cases ht : (Walk.takeBoth "li" attrs).source <;> simp [hs, ht] at h ⊢

theorem Attrs.source_of_restart {source : String} (h : attrs.request = .restart source) :
    (Walk.takeBoth "li" attrs).suppressed = false ∧
      (Walk.takeBoth "li" attrs).source = some source := by
  rw [request] at h
  cases hs : (Walk.takeBoth "li" attrs).suppressed with
  | true => simp [hs] at h
  | false => cases ht : (Walk.takeBoth "li" attrs).source <;> simp [hs, ht] at h ⊢; exact h

end

/-! ## The series of a list -/

namespace State
open Walk
variable {d : Defaults} {s s' : State} {id : SeriesId} {source : String} {n : Nat}

/-- The series labels items by the first segment of a source, below no other series. -/
structure Serves (s : State) (v : Series) (source : String) : Prop where
  parent : v.parent = none
  template : ∃ t n, Template.parse source = .ok t ∧ v.template = ⟨t, n, 0⟩ ∧
    s.context.sources.idxOf? source = some n
  key : s.scope.roster.keys.idxOf? ⟨v.template.place, .none, v.styled⟩ = some v.key

/-- The series has counted the items of a source. -/
structure Follows (d : Defaults) (s : State) (id : SeriesId) (source : String) (n : Nat) : Prop where
  running : s.failure = none
  series : ∃ v, s.scope.roster.view? id = some v ∧ v.styled = d.styled ∧ v.count = n ∧ s.Serves v source

theorem Serves.mono {v : Series} (h : s.Serves v source) (hs : Steps d s s') (n : Nat) :
    s'.Serves { v with count := n } source := by
  obtain ⟨t, m, ht, htemplate, hsource⟩ := h.template
  obtain ⟨more, hmore⟩ := hs.extends
  obtain ⟨keys, hkeys⟩ := hs.grows.keys
  refine ⟨h.parent, ⟨t, m, ht, htemplate, ?_⟩, ?_⟩
  · rw [hmore]
    exact idxOf?_append_of_eq_some hsource more
  · rw [hkeys]
    exact idxOf?_append_of_eq_some h.key keys

theorem Follows.keep (h : Follows d s id source n) (hs : Steps d s s') (hrun : s'.failure = none)
    (hview : s'.scope.roster.view? id = s.scope.roster.view? id) : Follows d s' id source n := by
  obtain ⟨v, hv, hstyled, rfl, hserves⟩ := h.series
  exact ⟨hrun, v, hview.trans hv, hstyled, rfl, hserves.mono hs v.count⟩

theorem Follows.stopped (h : Follows d s id source n) : ¬s.isStopped := by
  simp [isStopped, h.running]

theorem Follows.segment (h : Follows d s id source n) :
    ∃ v, s.scope.roster.view? id = some v ∧ v.styled = d.styled ∧ v.count = n ∧ v.parent = none ∧
      v.segment = Segment.ofSource source ∧ s.Serves v source := by
  obtain ⟨v, hv, hstyled, hcount, hserves⟩ := h.series
  obtain ⟨t, m, ht, htemplate, -⟩ := hserves.template
  refine ⟨v, hv, hstyled, hcount, hserves.parent, ?_, hserves⟩
  rw [Series.segment, htemplate, Segment.ofSource, ht]

/-- The label of the list as text. -/
theorem Follows.text (h : Follows d s id source n) :
    s.scope.roster.text id = (Segment.ofSource source).shown n := by
  obtain ⟨v, hv, -, rfl, hparent, hsegment, -⟩ := h.segment
  rw [Roster.text_eq, Roster.bareText_eq, hv, Option.elim_some, hsegment, Segment.shown]
  simp only [hsegment, hparent]
  cases (Segment.ofSource source).style <;> rfl

theorem serves_newSeries {t : Template} {r : Roster} (ht : Template.parse source = .ok t)
    (hsource : s.context.sources.idxOf? source = some n) (kind : ElementKind) (styled : Bool)
    (hkeys : s.scope.roster.keys = (r.create kind ⟨t, n, 0⟩ none styled).2.keys) :
    s.Serves (r.newSeries kind ⟨t, n, 0⟩ none styled) source := by
  refine ⟨rfl, ⟨t, n, ht, rfl, hsource⟩, ?_⟩
  rw [hkeys, Roster.keys_create]
  exact r.idxOf?_number _

theorem Follows.replace (h : Follows d s id source n) {t : Template} {source' : String} {m : Nat}
    (ht : Template.parse source' = .ok t) (hm : s.context.sources.idxOf? source' = some m)
    (kind : ElementKind) :
    Follows d { s with scope := s.scope.replaced id kind ⟨t, m, 0⟩ d.styled }
      s.scope.roster.series.size source' 0 := by
  obtain ⟨v, hv, -, -, hserves⟩ := h.series
  have hparent : (s.scope.roster.get? id).bind Series.parent = none := by
    obtain ⟨u, hu, rfl⟩ := Roster.get?_of_view? hv
    rw [hu]
    exact hserves.parent
  have hreplaced : s.scope.replaced id kind ⟨t, m, 0⟩ d.styled =
      (s.scope.create kind ⟨t, m, 0⟩ none d.styled).2.replace id s.scope.roster.series.size := by
    rw [Scope.replaced, hparent]
  obtain ⟨gone, hsh, -⟩ := Scope.shrinks_replace (s.scope.create kind ⟨t, m, 0⟩ none d.styled).2
    id s.scope.roster.series.size
  rw [← hreplaced] at hsh
  exact ⟨h.running, _, (hsh.view _).trans (Roster.view?_create_self ..), rfl, rfl,
    serves_newSeries (s := { s with scope := s.scope.replaced id kind ⟨t, m, 0⟩ d.styled }) ht hm kind
      d.styled hsh.keys⟩

/-! ## Items -/

/-- An item without a label. -/
theorem Follows.silent {l : ListState} (h : Follows d s l.series source n) {attrs : Attrs}
    (hr : attrs.request = .silent) (kind : ElementKind) :
    ∃ s', enterItem d kind l "li" attrs s =
        (⟨attrs.undirected.addClass Css.noLabelClass, none, s'⟩, l) ∧
      s'.stylesheet = s.stylesheet ∧ Follows d s' l.series source n := by
  have hsuppressed := Attrs.suppressed_of_silent hr
  refine ⟨_, by rw [enterItem]; simp only [hsuppressed, if_true]; rfl, by simp, ?_⟩
  exact h.keep (.keep (by simp) (by simp)) (by simpa using h.running) (by simp)

/-- An item with the next label. -/
theorem Follows.next {l : ListState} (h : Follows d s l.series source n) {attrs : Attrs}
    (hr : attrs.request = .next) (kind : ElementKind) :
    ∃ s', enterItem d kind l "li" attrs s = drawItem d l attrs.undirected s' ∧
      s'.stylesheet = s.stylesheet ∧ Follows d s' l.series source n := by
  obtain ⟨hsuppressed, hsource⟩ := Attrs.source_of_next hr
  refine ⟨s.warn (takeBoth "li" attrs).warnings, ?_, rfl, h.keep (.keep rfl rfl) h.running rfl⟩
  rw [enterItem]
  simp only [hsuppressed, hsource, readDirective_none]
  rfl

/-- An item with another template, which a new series counts. -/
theorem Follows.restart {l : ListState} (h : Follows d s l.series source n) {attrs : Attrs}
    {source' : String} (hr : attrs.request = .restart source') {t : Template}
    (ht : Template.parse source' = .ok t) (kind : ElementKind) :
    ∃ id s', enterItem d kind l "li" attrs s =
        drawItem d { l with series := id } attrs.undirected s' ∧
      s'.stylesheet = s.stylesheet ∧ id ≠ l.series ∧ Follows d s' id source' 0 := by
  obtain ⟨hsuppressed, hsource⟩ := Attrs.source_of_restart hr
  obtain ⟨m, c', hread, hm⟩ := Template.Context.read_of_ok ht s.context (.directive "li")
  have hdirective : (s.warn (takeBoth "li" attrs).warnings).readDirective "li" (some source') =
      (.ok (some ⟨t, m, 0⟩), { s.warn (takeBoth "li" attrs).warnings with context := c' }) := by
    rw [readDirective, context_warn, hread]
  have hread' : Follows d { s.warn (takeBoth "li" attrs).warnings with context := c' } l.series
      source n := by
    refine h.keep ?_ h.running rfl
    have hstep := (steps_warn d s (takeBoth "li" attrs).warnings).trans
      (Step.read (d := d) "li" (some source')).one
    rwa [hdirective] at hstep
  obtain ⟨v, hv, -⟩ := h.series
  refine ⟨_, _, ?_, ?_, ?_, hread'.replace ht hm kind⟩
  · rw [enterItem]
    simp only [hsuppressed, hsource, hdirective, replace_eq]
    rfl
  · rfl
  · exact Nat.ne_of_gt (Roster.has_of_view? hv)

theorem Follows.label {l : ListState} {p : ListLabel} (h : Follows d s l.series p.source p.number)
    {attrs : Attrs} (hr : attrs.request ≠ .silent)
    (hparse : ∀ source, attrs.request = .restart source → ∃ t, Template.parse source = .ok t)
    (kind : ElementKind) :
    ∃ id s' n, (id = l.series ↔ attrs.request = .next) ∧
      enterItem d kind l "li" attrs s = drawItem d { l with series := id } attrs.undirected s' ∧
      s'.stylesheet = s.stylesheet ∧ n + 1 = (p.after attrs.request).number ∧
      Follows d s' id (p.after attrs.request).source n := by
  cases hreq : attrs.request with
  | silent => exact absurd hreq hr
  | next =>
    obtain ⟨s', henter, hsheet, hfollows⟩ := h.next hreq kind
    exact ⟨l.series, s', p.number, by simp, henter, hsheet, rfl, hfollows⟩
  | restart source =>
    obtain ⟨t, ht⟩ := hparse source hreq
    obtain ⟨id, s', henter, hsheet, hne, hfollows⟩ := h.restart hreq ht kind
    exact ⟨id, s', 0, by simp [hne], henter, hsheet, rfl, hfollows⟩

theorem Follows.draw {l : ListState} (h : Follows d s l.series source n) (attrs : Attrs) :
    Follows d (drawItem d l attrs s).1.state (drawItem d l attrs s).2.series source (n + 1) ∧
      (drawItem d l attrs s).1.state.scope.roster.text l.series =
        (Segment.ofSource source).shown (n + 1) := by
  obtain ⟨v, hv, hstyled, rfl, hserves⟩ := h.series
  have hafter : Follows d (drawItem d l attrs s).1.state l.series source (v.count + 1) := by
    refine ⟨by simpa using h.running, { v with count := v.count + 1 }, ?_, hstyled, rfl,
      hserves.mono (drawItem_steps d l attrs s) _⟩
    rw [scope_drawItem, Scope.increment, Roster.view?_increment, hv]
    simp
  exact ⟨hafter, hafter.text⟩

/-- What was started in an item ends with it. -/
theorem Follows.leave {l : ListState} (h : Follows d s l.series source n) :
    Follows d (leaveItem l s) l.series source n ∧ (leaveItem l s).stylesheet = s.stylesheet := by
  obtain ⟨gone, hsh, -⟩ := Scope.shrinks_endBelow s.scope l.series
  have hsteps := leaveItem_steps d l s
  rw [leaveItem_of_running h.running] at hsteps ⊢
  exact ⟨h.keep hsteps h.running (hsh.view _), rfl⟩

end State
end Rubric
