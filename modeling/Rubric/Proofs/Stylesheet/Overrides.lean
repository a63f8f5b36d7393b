import Mathlib.Data.List.ReduceOption
import Rubric.Proofs.Labelling.Requests
import Rubric.Proofs.Stylesheet.Cascade
import Rubric.Proofs.Stylesheet.Consistency
import Rubric.Proofs.Template.Styles

/-!
# The labels of one list by counters

* `ListLabel.rules`, `ListLabel.mark` : what a label adds to the stylesheet, and to the attributes of its
  item. Styles are known by the keys of templates;
* `ListLabel.displayed` : the number that a label has by counters. Where an item has asked for the template
  of the first label again, every label starts the counter over;
* `ListLabel.Rendered` : a stylesheet made of labels, and the list that has them;
* `counted_labels` : what the stylesheet draws before the items.
-/

namespace Rubric

def Segment.content (s : Segment) (key : Nat) : Content :=
  Content.ofText s.before ++ s.style.elim [] (fun style => [.counter key style.name]) ++
    Content.ofText s.after

theorem Segment.style_mem {source : String} {style : CounterStyle}
    (h : (ofSource source).style = some style) : style ∈ Registry.styles := by
  rw [ofSource] at h
  cases hparse : Template.parse source with
  | error e =>
    rw [hparse] at h
    cases h
  | ok t =>
    rw [hparse] at h
    exact Template.registered_parse hparse _ (List.mem_cons_self ..) style h

theorem Segment.shown?_content (source : String) (key : Nat) (x : Counters) :
    ((ofSource source).content key).shown? (fun key => some (x key)) =
      some ((ofSource source).shown (x key)) := by
  have hstyle : ((ofSource source).style.elim [] fun style => [.counter key style.name] : Content).shown?
      (fun key => some (x key)) = some ((ofSource source).style.elim "" (·.format (x key))) := by
    cases h : (ofSource source).style with
    | none => rfl
    | some style => exact Content.shown?_counter rfl (style_mem h)
  exact Content.shown?_append (Content.shown?_append (Content.shown?_ofText ..) hstyle)
    (Content.shown?_ofText ..)

theorem Segment.shown_literal {s : Segment} (h : s.isNumbered = false) (n m : Nat) :
    s.shown n = s.shown m := by
  have hstyle : s.style = none := Option.not_isSome_iff_eq_none.1 (by simpa [isNumbered] using h)
  rw [shown, shown, hstyle]
  rfl

namespace ListLabel
variable {K : String → Nat}

def first (l : ListLabel) : String := l.outer.getD l.source

/-- The style that an item names if its template is not that of the first label any more. -/
def name? (K : String → Nat) (l : ListLabel) : Option Nat := l.outer.map fun _ => K l.source

def isNumbered (l : ListLabel) : Bool := (Segment.ofSource l.source).isNumbered

/-- What a label adds to the stylesheet. -/
def rules (K : String → Nat) (l : ListLabel) : List Rule :=
  .hideMarkers ::
    if l.number = 1 then
      (if l.isNumbered then
        (if l.outer.isNone then [.reset (K l.source)] else []) ++ [.increment (K l.first) (l.name? K)]
      else []) ++ [.content (K l.first) (l.name? K) ((Segment.ofSource l.source).content (K l.source))]
    else []

/-- What a label adds to the attributes of its item. -/
def mark (K : String → Nat) (l : ListLabel) (attrs : Attrs) : Attrs :=
  if l.outer.isNone then attrs
  else
    (if l.number = 1 then attrs.addStyle (Css.counterReset (K l.source)) else attrs).addClass
      (Css.styleName (K l.source))

def markItem (K : String → Nat) (l : Option ListLabel) (attrs : Attrs) : Attrs :=
  l.elim (attrs.addClass Css.noLabelClass) (mark K · attrs)

/-- The number that the counters show. -/
def displayed (l : ListLabel) : Nat := if l.Repeats then 1 else l.number

theorem getD_name? (K : String → Nat) (l : ListLabel) : (l.name? K).getD (K l.first) = K l.source := by
  rw [name?, first]
  cases l.outer <;> rfl

theorem drawn_rules (l : ListLabel) : ∀ r ∈ l.rules K, r.Drawn := by
  intro r hr
  rw [rules] at hr
  rcases List.mem_cons.1 hr with rfl | hr
  · trivial
  · split at hr
    · rcases List.mem_append.1 hr with hr | hr
      · split at hr
        · rcases List.mem_append.1 hr with hr | hr
          · split at hr
            · rw [List.mem_singleton.1 hr]
              trivial
            · cases hr
          · rw [List.mem_singleton.1 hr]
            trivial
        · cases hr
      · rw [List.mem_singleton.1 hr]
        trivial
    · cases hr

theorem reset_mem_rules {l : ListLabel} {key : Nat} :
    .reset key ∈ l.rules K ↔
      l.number = 1 ∧ l.isNumbered = true ∧ l.outer = none ∧ key = K l.source := by
  rw [rules]
  by_cases hn : l.number = 1 <;> cases hs : l.isNumbered <;> cases ho : l.outer <;> simp [hn]

theorem increment_mem_rules {l : ListLabel} {container : Nat} {name : Option Nat} :
    .increment container name ∈ l.rules K ↔
      l.number = 1 ∧ l.isNumbered = true ∧ container = K l.first ∧ name = l.name? K := by
  rw [rules]
  by_cases hn : l.number = 1 <;> cases hs : l.isNumbered <;> cases ho : l.outer <;> simp [hn]

theorem content_mem_rules {l : ListLabel} {container : Nat} {name : Option Nat} {value : Content} :
    .content container name value ∈ l.rules K ↔
      l.number = 1 ∧ container = K l.first ∧ name = l.name? K ∧
        value = (Segment.ofSource l.source).content (K l.source) := by
  rw [rules]
  by_cases hn : l.number = 1 <;> cases hs : l.isNumbered <;> cases ho : l.outer <;> simp [hn]

/-! ## Marks -/

section
variable {attrs : Attrs} (l : ListLabel)

theorem classes_mark (h : attrs.Unclassed) :
    (l.mark K attrs).classes =
      attrs.classes ++ (l.name? K).toList.map fun key => (Css.styleName key).toList := by
  rw [mark, name?]
  cases l.outer with
  | none => simp
  | some outer =>
    have hsame : (if l.number = 1 then attrs.addStyle (Css.counterReset (K l.source))
        else attrs).classes = attrs.classes := by
      split
      · exact Attrs.classes_addStyle ..
      · rfl
    have hnew : Attrs.Unclassed (if l.number = 1 then attrs.addStyle (Css.counterReset (K l.source))
        else attrs) := by
      rw [Attrs.Unclassed, hsame]
      exact h
    have hother := Attrs.not_hasClass_of_unclassed hnew (Css.isPrefixOf_styleName (K l.source))
    have hadd := Attrs.classes_addClass hother (Attrs.no_blank_styleName _)
      (by simp [Css.toList_styleName])
    rw [hsame] at hadd
    simpa using hadd

theorem hasClass_mark (h : attrs.Unclassed) (key : Nat) :
    (l.mark K attrs).hasClass (Css.styleName key) = true ↔ l.name? K = some key := by
  have hold : (Css.styleName key).toList ∉ attrs.classes := by
    have hnew := Attrs.not_hasClass_of_unclassed h (Css.isPrefixOf_styleName key)
    rwa [Attrs.hasClass, List.contains_eq_mem, decide_eq_false_iff_not] at hnew
  rw [Attrs.hasClass, List.contains_eq_mem, decide_eq_true_eq, classes_mark l h, List.mem_append]
  constructor
  · rintro (hmem | hmem)
    · exact absurd hmem hold
    · obtain ⟨key', hkey', heq⟩ := List.mem_map.1 hmem
      rw [← Css.styleName_injective (String.toList_inj.1 heq)]
      exact Option.mem_toList.1 hkey'
  · intro hname
    rw [hname]
    exact Or.inr (List.mem_singleton_self _)

theorem not_noLabel_mark (h : attrs.Unclassed) : (l.mark K attrs).hasClass Css.noLabelClass = false := by
  have hold : Css.noLabelClass.toList ∉ attrs.classes := by
    have hnew : attrs.hasClass Css.noLabelClass = false :=
      Attrs.not_hasClass_of_unclassed h (by decide)
    rwa [Attrs.hasClass, List.contains_eq_mem, decide_eq_false_iff_not] at hnew
  rw [Attrs.hasClass, List.contains_eq_mem, decide_eq_false_iff_not, classes_mark l h, List.mem_append]
  rintro (hmem | hmem)
  · exact hold hmem
  · obtain ⟨key, -, heq⟩ := List.mem_map.1 hmem
    have hstyle := Css.isStyleName_styleName key
    rw [heq] at hstyle
    exact absurd hstyle (by decide)

/-- The first label of a template behind the first one starts its counter over. -/
theorem declares_mark (h : attrs.Unreset) (key : Nat) :
    (Css.counterReset key).toList ∈ (l.mark K attrs).declarations ↔
      l.number = 1 ∧ l.name? K = some key := by
  have hold : (Css.counterReset key).toList ∉ attrs.declarations := fun hmem => by
    have hprefix : "counter-reset:la-".toList <+: (Css.counterReset key).toList := by
      have hname : "counter-reset:la-".toList <+: "counter-reset:".toList ++ "la-label".toList := by
        decide
      rw [Css.toList_counterReset, Css.toList_styleName, ← List.append_assoc]
      exact hname.trans (List.prefix_append ..)
    have := h _ hmem
    rw [List.isPrefixOf_iff_prefix.2 hprefix] at this
    cases this
  rw [mark, name?]
  cases ho : l.outer with
  | none => simp [hold]
  | some outer =>
    simp only [Option.isNone_some, Bool.false_eq_true, if_false, Attrs.declarations_addClass,
      Option.map_some, Option.some.injEq]
    split
    · rename_i hone
      rw [Attrs.mem_declarations_addStyle attrs (Css.no_blank_counterReset _)
        (Css.no_semicolon_counterReset _) (by simp [Css.toList_counterReset])]
      constructor
      · rintro (hmem | heq)
        · exact absurd hmem hold
        · exact ⟨hone, (Css.counterReset_injective (String.toList_inj.1 heq)).symm⟩
      · rintro ⟨-, rfl⟩
        exact Or.inr rfl
    · rename_i hne
      exact ⟨fun hmem => absurd hmem hold, fun hmem => absurd hmem.1 hne⟩

end

/-! ## Lists with labels -/

/-- A stylesheet is that of the labels of one list, and the list has the style of the first of them.
Different templates have different styles. -/
structure Rendered (K : String → Nat) (sheet : Stylesheet) (list : Attrs) (all : List ListLabel)
    (source : String) : Prop where
  rules : sheet = ({} : Stylesheet).addAll (all.flatMap (rules K))
  style : list.styleClasses = [(Css.styleName (K source)).toList]
  first : ∀ l ∈ all, l.first = source
  begun : ∃ l ∈ all, l.number = 1 ∧ l.outer = none
  injective : ∀ l ∈ all, ∀ l' ∈ all, K l.source = K l'.source → l.source = l'.source

namespace Rendered
variable {sheet : Stylesheet} {list attrs : Attrs} {all : List ListLabel} {source : String}
  {l l' : ListLabel}

theorem mem_rules (h : Rendered K sheet list all source) {r : Rule} (hr : r.Drawn)
    (hcontent : ∀ container name value, r ≠ .content container name value) :
    r ∈ sheet.rules ↔ ∃ l ∈ all, r ∈ l.rules K := by
  rw [h.rules, Stylesheet.mem_addAll_iff (fun r hr => ?_) hr hcontent, List.mem_flatMap]
  obtain ⟨l, -, hl⟩ := List.mem_flatMap.1 hr
  exact l.drawn_rules r hl

theorem source_eq (h : Rendered K sheet list all source) (hl : l ∈ all) (hl' : l' ∈ all)
    (hname : l.name? K = l'.name? K) : l.source = l'.source := by
  refine h.injective l hl l' hl' ?_
  rw [← l.getD_name? K, ← l'.getD_name? K, hname, h.first l hl, h.first l' hl']

theorem style_eq (h : Rendered K sheet list all source) (hl : l ∈ all) :
    K l.source = K source ↔ l.source = source := by
  refine ⟨fun hkey => ?_, fun heq => by rw [heq]⟩
  obtain ⟨l', hl', -, houter⟩ := h.begun
  have hfirst : l'.source = source := by
    have := h.first l' hl'
    rwa [ListLabel.first, houter] at this
  rw [← hfirst] at hkey ⊢
  exact h.injective l hl l' hl' hkey

theorem reset_mem (h : Rendered K sheet list all source) (key : Nat) :
    .reset key ∈ sheet.rules ↔ (Segment.ofSource source).isNumbered = true ∧ key = K source := by
  rw [h.mem_rules (r := .reset key) trivial (by simp)]
  constructor
  · rintro ⟨l, hl, hr⟩
    obtain ⟨-, hnumbered, houter, rfl⟩ := reset_mem_rules.1 hr
    have hfirst := h.first l hl
    rw [ListLabel.first, houter, Option.getD_none] at hfirst
    rw [ListLabel.isNumbered, hfirst] at hnumbered
    exact ⟨hnumbered, by rw [hfirst]⟩
  · rintro ⟨hnumbered, rfl⟩
    obtain ⟨l, hl, hone, houter⟩ := h.begun
    have hfirst := h.first l hl
    rw [ListLabel.first, houter, Option.getD_none] at hfirst
    exact ⟨l, hl, reset_mem_rules.2 ⟨hone, by rw [ListLabel.isNumbered, hfirst]; exact hnumbered, houter,
      by rw [hfirst]⟩⟩

theorem covers_iff (h : Rendered K sheet list all source) (hattrs : attrs.Unclassed) (l : ListLabel)
    (container : Nat) (name : Option Nat) :
    Rule.covers list (l.mark K attrs) container name = true ↔
      container = K source ∧ (name = none ∨ name = l.name? K) := by
  have hlist : list.hasClass (Css.styleName container) = true ↔ container = K source := by
    rw [Attrs.hasClass_styleName, h.style, List.mem_singleton, String.toList_inj]
    exact ⟨fun heq => Css.styleName_injective heq, fun heq => by rw [heq]⟩
  rw [Rule.covers, Bool.and_eq_true, Bool.and_eq_true, hlist, not_noLabel_mark l hattrs]
  cases name with
  | none => simp
  | some key =>
    rw [Option.all_some, hasClass_mark l hattrs]
    simp [eq_comm]

/-! ## Items -/

theorem increments (h : Rendered K sheet list all source) (hattrs : attrs.Unclassed)
    (hl : { l with number := 1 } ∈ all) (hnumbered : l.isNumbered = true) :
    outranking (sheet.rules.filterMap (Rule.increment? list (l.mark K attrs))) = some (K l.source) := by
  have hfirst : l.first = source := h.first { l with number := 1 } hl
  have hcovered : ∀ r ∈ sheet.rules.filterMap (Rule.increment? list (l.mark K attrs)),
      (r.1 = none ∨ r.1 = l.name? K) ∧ r.2 = r.1.getD (K source) := by
    intro r hr
    obtain ⟨rule, -, heq⟩ := List.mem_filterMap.1 hr
    cases rule with
    | increment container name =>
      rw [Rule.increment?] at heq
      split at heq
      · rename_i hcovers
        cases heq
        obtain ⟨rfl, hname⟩ := (h.covers_iff hattrs l _ _).1 hcovers
        exact ⟨hname, rfl⟩
      · cases heq
    | _ => cases heq
  have hrule : .increment (K source) (l.name? K) ∈ sheet.rules := by
    refine (h.mem_rules (r := .increment ..) trivial (by simp)).2
      ⟨_, hl, increment_mem_rules.2 ⟨rfl, hnumbered, ?_, rfl⟩⟩
    exact congrArg K hfirst.symm
  refine outranking_eq_some (List.mem_filterMap.2 ⟨_, hrule, ?_⟩)
    (fun r hr => (hcovered r hr).1) fun r hr hname => ?_
  · rw [Rule.increment?, if_pos ((h.covers_iff hattrs l _ _).2 ⟨rfl, Or.inr rfl⟩), ← hfirst,
      l.getD_name?]
  · rw [(hcovered r hr).2, hname, ← hfirst, l.getD_name?]

theorem contents (h : Rendered K sheet list all source) (hattrs : attrs.Unclassed)
    (hl : { l with number := 1 } ∈ all) :
    outranking (sheet.rules.filterMap (Rule.content? list (l.mark K attrs))) =
      some ((Segment.ofSource l.source).content (K l.source)) := by
  have hcovered : ∀ r ∈ sheet.rules.filterMap (Rule.content? list (l.mark K attrs)),
      (r.1 = none ∨ r.1 = l.name? K) ∧
        (r.1 = l.name? K → r.2 = (Segment.ofSource l.source).content (K l.source)) := by
    intro r hr
    obtain ⟨rule, hrule, heq⟩ := List.mem_filterMap.1 hr
    cases rule with
    | content container name value =>
      rw [Rule.content?] at heq
      split at heq
      · rename_i hcovers
        cases heq
        refine ⟨((h.covers_iff hattrs l _ _).1 hcovers).2, fun hname => ?_⟩
        rw [h.rules] at hrule
        obtain ⟨l', hl', hmem⟩ := List.mem_flatMap.1 ((Stylesheet.mem_addAll hrule).resolve_left (by simp))
        obtain ⟨-, -, hname', hvalue⟩ := content_mem_rules.1 hmem
        have hsame : l'.name? K = ListLabel.name? K { l with number := 1 } := hname'.symm.trans hname
        have hsource := h.source_eq hl' hl hsame
        show value = _
        rw [hvalue, hsource]
      · cases heq
    | _ => cases heq
  have hmem : .content (K source) (l.name? K) ((Segment.ofSource l.source).content (K l.source)) ∈
      all.flatMap (ListLabel.rules K) := by
    refine List.mem_flatMap.2 ⟨_, hl, content_mem_rules.2 ⟨rfl, ?_, rfl, rfl⟩⟩
    exact congrArg K (h.first { l with number := 1 } hl).symm
  obtain ⟨rule, hrule, htext⟩ := Stylesheet.exists_mem_addAll (s := {}) hmem
  have hdrawn : rule.Drawn := by
    obtain ⟨l', -, hl'⟩ := List.mem_flatMap.1 ((Stylesheet.mem_addAll hrule).resolve_left (by simp))
    exact l'.drawn_rules rule hl'
  have hcontent : (Rule.content (K source) (l.name? K)
      ((Segment.ofSource l.source).content (K l.source))).Drawn := trivial
  obtain ⟨value, rfl⟩ : ∃ value, rule = .content (K source) (l.name? K) value := by
    rcases Rule.same_selector hdrawn hcontent (Rule.selector_congr htext) with
      rfl | ⟨_, _, value, _, rfl, heq⟩
    · exact ⟨_, rfl⟩
    · cases heq
      exact ⟨value, rfl⟩
  rw [← h.rules] at hrule
  have hfound : (l.name? K, value) ∈ sheet.rules.filterMap (Rule.content? list (l.mark K attrs)) := by
    refine List.mem_filterMap.2 ⟨_, hrule, ?_⟩
    rw [Rule.content?, if_pos ((h.covers_iff hattrs l _ _).2 ⟨rfl, Or.inr rfl⟩)]
  obtain ⟨-, hvalue⟩ := hcovered _ hfound
  rw [← hvalue rfl]
  refine outranking_eq_some hfound (fun r hr => (hcovered r hr).1) fun r hr hname => ?_
  rw [(hcovered r hr).2 hname, ← hvalue rfl]

/-- The item of a label starts its counter over with each template, and always where the template of the
first label is repeated. -/
theorem startsOver_iff (h : Rendered K sheet list all source) (hattrs : attrs.Unclassed)
    (hstyle : attrs.Unreset) (hl : { l with number := 1 } ∈ all) (hnumbered : l.isNumbered = true) :
    sheet.startsOver (l.mark K attrs) (K l.source) = true ↔
      l.outer.isSome ∧ (l.number = 1 ∨ l.Repeats) := by
  have hname : l.name? K = some (K l.source) ↔ l.outer.isSome := by
    rw [ListLabel.name?]
    cases l.outer <;> simp
  have hfirst : l.first = source := h.first { l with number := 1 } hl
  have hrepeats : l.outer.isSome → (l.Repeats ↔ l.source = source) := by
    intro hsome
    obtain ⟨outer, houter⟩ := Option.isSome_iff_exists.1 hsome
    rw [ListLabel.first, houter, Option.getD_some] at hfirst
    rw [ListLabel.Repeats, houter, Option.some.injEq, hfirst, eq_comm]
  rw [Stylesheet.startsOver, Bool.or_eq_true, Bool.and_eq_true, hasClass_mark l hattrs, hname,
    List.contains_eq_mem, List.contains_eq_mem, decide_eq_true_eq, decide_eq_true_eq, h.reset_mem,
    declares_mark l hstyle, hname, h.style_eq (l := { l with number := 1 }) hl]
  constructor
  · rintro (⟨⟨-, heq⟩, hsome⟩ | ⟨hone, hsome⟩)
    · exact ⟨hsome, Or.inr ((hrepeats hsome).2 heq)⟩
    · exact ⟨hsome, Or.inl hone⟩
  · rintro ⟨hsome, hone | hrep⟩
    · exact Or.inr ⟨hone, hsome⟩
    · have heq := (hrepeats hsome).1 hrep
      refine Or.inl ⟨⟨?_, heq⟩, hsome⟩
      rw [ListLabel.isNumbered, heq] at hnumbered
      exact hnumbered

/-- What is drawn before the item of a label, and the value of its counter there. -/
theorem shownAt_mark (h : Rendered K sheet list all source) (hattrs : attrs.Unclassed)
    (hstyle : attrs.Unreset) (hl : { l with number := 1 } ∈ all) {x : Counters}
    (hx : l.isNumbered = true → l.outer = none ∨ l.number ≠ 1 ∧ ¬l.Repeats →
      x (K l.source) + 1 = l.number) :
    (l.isNumbered = true → sheet.count list (l.mark K attrs) x (K l.source) = l.displayed) ∧
      sheet.shownAt list (l.mark K attrs) (sheet.count list (l.mark K attrs) x) =
        some ((Segment.ofSource l.source).shown l.displayed) := by
  have hcount : l.isNumbered = true →
      sheet.count list (l.mark K attrs) x (K l.source) = l.displayed := by
    intro hnumbered
    rw [Stylesheet.count, h.increments hattrs hl hnumbered]
    simp only [Function.update_self]
    have hover := h.startsOver_iff hattrs hstyle hl hnumbered
    rw [ListLabel.displayed]
    by_cases hrep : l.Repeats
    · have hsome : l.outer.isSome := by rw [hrep]; rfl
      rw [if_pos (hover.2 ⟨hsome, Or.inr hrep⟩), if_pos hrep]
    · rw [if_neg hrep]
      cases houter : l.outer with
      | none =>
        rw [if_neg fun hs => by simpa [houter] using (hover.1 hs).1]
        exact hx hnumbered (Or.inl houter)
      | some outer =>
        by_cases hone : l.number = 1
        · rw [if_pos (hover.2 ⟨by rw [houter]; rfl, Or.inl hone⟩), hone]
        · rw [if_neg fun hs => (hover.1 hs).2.elim hone hrep]
          exact hx hnumbered (Or.inr ⟨hone, hrep⟩)
  refine ⟨hcount, ?_⟩
  rw [Stylesheet.shownAt, h.contents hattrs hl, Option.bind_some, Segment.shown?_content]
  cases hnumbered : l.isNumbered with
  | true => rw [hcount hnumbered]
  | false => rw [Segment.shown_literal hnumbered]

end Rendered

/-! ## Items in a row -/

/-- The counters behind the item of a label. -/
structure Reached (K : String → Nat) (all : List ListLabel) (l : ListLabel) (x : Counters) : Prop where
  mem : 0 < l.number → { l with number := 1 } ∈ all
  bare : l.number = 0 → l.outer = none ∧ ∀ key, x key = 0
  value : 0 < l.number → l.isNumbered = true → x (K l.source) = l.displayed

theorem labels_silent (l : ListLabel) (rest : List Request) :
    l.labels (.silent :: rest) = none :: l.labels rest := rfl

theorem labels_cons {r : Request} (hr : r ≠ .silent) (l : ListLabel) (rest : List Request) :
    l.labels (r :: rest) = some (l.after r) :: (l.after r).labels rest := by
  cases r with
  | silent => exact absurd rfl hr
  | next => rfl
  | restart source => rfl

theorem number_after {r : Request} (hr : r ≠ .silent) (l : ListLabel) : 0 < (l.after r).number := by
  cases r with
  | silent => exact absurd rfl hr
  | next => exact Nat.succ_pos _
  | restart source => exact Nat.one_pos

theorem first_after {l : ListLabel} (hl : 0 < l.number) (r : Request) : (l.after r).first = l.first := by
  cases r with
  | silent => rfl
  | next => rfl
  | restart source => rw [after, if_neg (Nat.ne_of_gt hl), first, Option.getD_some, first]

/-- All labels of a list that has begun have one first template. -/
theorem first_labels {l : ListLabel} (hl : 0 < l.number) (requests : List Request) :
    ∀ l' ∈ (l.labels requests).reduceOption, l'.first = l.first := by
  induction requests generalizing l with
  | nil => simp [labels, List.reduceOption]
  | cons r rest ih =>
    by_cases hr : r = .silent
    · rw [hr, labels_silent, List.reduceOption_cons_of_none]
      exact ih hl
    · rw [labels_cons hr, List.reduceOption_cons_of_some, List.forall_mem_cons]
      refine ⟨first_after hl r, fun l' hl' => ?_⟩
      rw [ih (number_after hr l) l' hl', first_after hl r]

/-- A list begins with the first label of its first template. -/
theorem begun_labels (source : String) (requests : List Request) :
    ∀ l' ∈ ((start source).labels requests).reduceOption,
      (∃ l ∈ ((start source).labels requests).reduceOption, l.number = 1 ∧ l.outer = none) ∧
        ∀ l ∈ ((start source).labels requests).reduceOption, l.first = l'.first := by
  induction requests with
  | nil => simp [labels, List.reduceOption]
  | cons r rest ih =>
    by_cases hr : r = .silent
    · rw [hr, labels_silent, List.reduceOption_cons_of_none]
      exact ih
    · have hone : ((start source).after r).number = 1 ∧ ((start source).after r).outer = none := by
        cases r with
        | silent => exact absurd rfl hr
        | next => exact ⟨rfl, rfl⟩
        | restart source => exact ⟨rfl, rfl⟩
      rw [labels_cons hr, List.reduceOption_cons_of_some]
      have hfirst : ∀ l ∈ (start source).after r ::
          (((start source).after r).labels rest).reduceOption, l.first = ((start source).after r).first := by
        rw [List.forall_mem_cons]
        exact ⟨rfl, first_labels (number_after hr _) rest⟩
      exact fun l' hl' => ⟨⟨_, List.mem_cons_self .., hone⟩, fun l hl =>
        (hfirst l hl).trans (hfirst l' hl').symm⟩

variable {sheet : Stylesheet} {list attrs : Attrs} {all : List ListLabel} {source : String}
  {l : ListLabel} {x : Counters}

theorem Reached.mem_after (h : Reached K all l x) {r : Request} (hr : r ≠ .silent)
    (hmem : l.after r ∈ all) : { l.after r with number := 1 } ∈ all := by
  cases r with
  | silent => exact absurd rfl hr
  | restart source => exact hmem
  | next =>
    rcases Nat.eq_zero_or_pos l.number with hzero | hpos
    · have hone : { l.after .next with number := 1 } = l.after .next := by
        rw [after, hzero]
      rw [hone]
      exact hmem
    · exact h.mem hpos

/-- The next label has its number from the counter, unless it starts over. -/
theorem Reached.value_after (h : Reached K all l x) {r : Request} (hr : r ≠ .silent)
    (hnumbered : (l.after r).isNumbered = true)
    (hover : (l.after r).outer = none ∨ (l.after r).number ≠ 1 ∧ ¬(l.after r).Repeats) :
    x (K (l.after r).source) + 1 = (l.after r).number := by
  cases r with
  | silent => exact absurd rfl hr
  | restart source =>
    rcases Nat.eq_zero_or_pos l.number with hzero | hpos
    · rw [(h.bare hzero).2]
      rfl
    · rcases hover with hnone | ⟨hne, -⟩
      · rw [after, if_neg (Nat.ne_of_gt hpos)] at hnone
        cases hnone
      · exact absurd rfl hne
  | next =>
    show x (K l.source) + 1 = l.number + 1
    rcases Nat.eq_zero_or_pos l.number with hzero | hpos
    · rw [(h.bare hzero).2, hzero]
    · have hrep : ¬l.Repeats := by
        rcases hover with hnone | ⟨-, hrep⟩
        · intro hrep
          have hsome : l.outer = none := hnone
          rw [hrep] at hsome
          cases hsome
        · exact hrep
      rw [h.value hpos hnumbered, displayed, if_neg hrep]

/-- What a stylesheet draws before the items of its list. -/
theorem counted_labels (h : ∀ l ∈ all, Rendered K sheet list all l.first) (attrs : List Attrs)
    (hattrs : ∀ a ∈ attrs, a.undirected.Unclassed ∧ a.undirected.Unreset) {items : List ListItem}
    (hl : Reached K all l x)
    (hall : ∀ l' ∈ (l.labels (attrs.map Attrs.request)).reduceOption, l' ∈ all)
    (hitems : items.map (fun i => (i.lists.head?.map Prod.fst, i.attrs)) =
      List.zipWith (fun o a => (some list, markItem K o a.undirected))
        (l.labels (attrs.map Attrs.request)) attrs) :
    sheet.counted x items = (l.labels (attrs.map Attrs.request)).map
      (Option.map fun l => (Segment.ofSource l.source).shown l.displayed) := by
  induction attrs generalizing l x items with
  | nil =>
    obtain rfl : items = [] := by simpa [labels] using hitems
    rfl
  | cons a rest ih =>
    obtain ⟨hclass, hstyle⟩ := hattrs a (List.mem_cons_self ..)
    have hrest := fun b hb => hattrs b (List.mem_cons_of_mem _ hb)
    rw [List.map_cons] at hall hitems ⊢
    by_cases hr : a.request = .silent
    · rw [hr, labels_silent] at hall hitems ⊢
      obtain ⟨i, items, rfl, hi, hitems⟩ := List.map_eq_cons_iff.1 hitems
      obtain ⟨-, hi⟩ := Prod.mk.inj hi
      have hother : a.undirected.hasClass Css.noLabelClass = false :=
        Attrs.not_hasClass_of_unclassed hclass (by decide)
      have hclasses := Attrs.classes_addClass hother (by decide) (by decide)
      have hlabel : i.attrs.hasClass Css.noLabelClass = true := by
        rw [hi, markItem, Option.elim_none, Attrs.hasClass, hclasses, List.contains_eq_mem,
          decide_eq_true_eq]
        exact List.mem_append_right _ (List.mem_singleton_self _)
      rw [Stylesheet.counted, if_pos hlabel, List.map_cons, Option.map_none]
      exact congrArg (none :: ·) (ih hrest hl hall hitems)
    · rw [labels_cons hr] at hall hitems ⊢
      obtain ⟨i, items, rfl, hi, hitems⟩ := List.map_eq_cons_iff.1 hitems
      obtain ⟨hlist, hi⟩ := Prod.mk.inj hi
      obtain ⟨place, hplace, hfst⟩ := Option.map_eq_some_iff.1 hlist
      have hmem : l.after a.request ∈ all := hall _ (by simp [List.reduceOption])
      have hone := hl.mem_after hr hmem
      obtain ⟨hvalue, hshown⟩ := (h _ hmem).shownAt_mark hclass hstyle hone (hl.value_after hr)
      have hpos := number_after hr l
      have hnext : Reached K all (l.after a.request)
          (sheet.count list ((l.after a.request).mark K a.undirected) x) :=
        ⟨fun _ => hone, fun hzero => absurd hzero (Nat.ne_of_gt hpos), fun _ => hvalue⟩
      have hmark : i.attrs = (l.after a.request).mark K a.undirected := hi
      rw [Stylesheet.counted, hmark, not_noLabel_mark _ hclass, if_neg Bool.false_ne_true, hplace,
        Option.elim_some, hfst]
      dsimp only
      rw [hshown, List.map_cons, Option.map_some]
      refine congrArg (_ :: ·) (ih hrest hnext (fun l' hl' => hall l' ?_) hitems)
      simp only [List.reduceOption, List.filterMap_cons, id_eq] at hl' ⊢
      exact List.mem_cons_of_mem _ hl'

end ListLabel
end Rubric
