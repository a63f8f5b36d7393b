import Mathlib.Data.List.Forall2
import Rubric.Proofs.Labelling.Changes
import Rubric.Proofs.Labelling.Recursion

/-!
# The content of a document

Labelling adds to a document and takes nothing away but directives.

* `Gains` : a value at the end of which something has been added;
* `Attrs.Kept` : attributes that have lost directives, and gained classes and counter resets;
* `Node.Annotated typeset n ns` : the nodes `ns` are `n` with labels put in front of content and text
  split at markers;
* `Draft.Of n m` : the draft `m` is one of `n`. `Of.walk` : so is what a walk makes of it;
* `Labelling.content_kept` : this of whole runs, to wherever they come.
-/

namespace Rubric

/-! ## Attributes -/

/-- A value at the end of which new words have been added. A blank value has been replaced. -/
inductive Gains (separators : List String) (IsNew : String → Prop) (value : Option String) :
    Option String → Prop where
  | same : Gains separators IsNew value value
  | first {now : Option String} {word : String} (h : Gains separators IsNew value now)
      (hblank : ∀ s ∈ now, Text.allBlank s.toList) (hnew : IsNew word) :
      Gains separators IsNew value (some word)
  | next {now separator word : String} (h : Gains separators IsNew value (some now))
      (hseparator : separator ∈ separators) (hnew : IsNew word) :
      Gains separators IsNew value (some (now ++ separator ++ word))

theorem Gains.trans {separators : List String} {IsNew : String → Prop} {a b c : Option String}
    (h : Gains separators IsNew a b) (h' : Gains separators IsNew b c) : Gains separators IsNew a c := by
  induction h' with
  | same => exact h
  | first _ hblank hnew ih => exact .first ih hblank hnew
  | next _ hseparator hnew ih => exact .next ih hseparator hnew

theorem Directive.ne_of_mem {d : Directive} {name : String} (h : name ∈ [d.name, d.longName]) :
    name ≠ "class" ∧ name ≠ "style" := by
  cases d <;> simp only [Directive.name, Directive.longName, List.mem_cons, List.not_mem_nil, or_false] at h <;>
    rcases h with rfl | rfl <;> decide

namespace Attrs

/-- The same attributes, perhaps without directives, and with further classes and counter resets. -/
structure Kept (attrs attrs' : Attrs) : Prop where
  classes : Gains [" "] (fun name => "la-".toList <+: name.toList) (attrs.get? "class") (attrs'.get? "class")
  style : Gains ["", ";"] (fun declaration => ∃ key, declaration = Css.counterReset key)
    (attrs.get? "style") (attrs'.get? "style")
  directive : ∀ d : Directive, ∀ name ∈ [d.name, d.longName],
    attrs'.get? name = none ∨ attrs'.get? name = attrs.get? name
  other : ∀ name, name ≠ "class" → name ≠ "style" → (∀ d : Directive, name ∉ [d.name, d.longName]) →
    attrs'.get? name = attrs.get? name

variable {attrs attrs' attrs'' : Attrs}

theorem Kept.refl (attrs : Attrs) : attrs.Kept attrs :=
  ⟨.same, .same, fun _ _ _ => Or.inr rfl, fun _ _ _ _ => rfl⟩

theorem Kept.trans (h : attrs.Kept attrs') (h' : attrs'.Kept attrs'') : attrs.Kept attrs'' where
  classes := h.classes.trans h'.classes
  style := h.style.trans h'.style
  directive d name hname := by
    rcases h'.directive d name hname with hgone | hsame
    · exact Or.inl hgone
    · rw [hsame]
      exact h.directive d name hname
  other name hclass hstyle hdirective :=
    (h'.other name hclass hstyle hdirective).trans (h.other name hclass hstyle hdirective)

theorem Kept.addClass (h : attrs.Kept attrs') {name : String} (hname : Css.IsOwn name) :
    attrs.Kept (attrs'.addClass name) := by
  refine h.trans ⟨?_, ?_, fun d n hn => Or.inr (get?_addClass_of_ne _ (Directive.ne_of_mem hn).1),
    fun n hclass _ _ => get?_addClass_of_ne _ hclass⟩
  · have hprefix := List.isPrefixOf_iff_prefix.1 hname.isPrefixOf
    rw [Attrs.addClass]
    split
    · exact .same
    · split
      · rename_i names hnames
        split <;> rename_i hblank <;> rw [get?_set_self, hnames]
        · exact .first .same (by simpa using hblank) hprefix
        · exact .next .same (List.mem_singleton.2 rfl) hprefix
      · rename_i hnone
        rw [get?_set_self, hnone]
        exact .first .same (by simp) hprefix
  · rw [get?_addClass_of_ne _ (by decide)]
    exact .same

theorem Kept.addStyle (h : attrs.Kept attrs') (key : Nat) :
    attrs.Kept (attrs'.addStyle (Css.counterReset key)) := by
  refine h.trans ⟨?_, ?_, fun d n hn => Or.inr (get?_addStyle_of_ne _ (Directive.ne_of_mem hn).2),
    fun n _ hstyle _ => get?_addStyle_of_ne _ hstyle⟩
  · rw [get?_addStyle_of_ne _ (by decide)]
    exact .same
  · rw [Attrs.addStyle]
    split
    · rename_i declarations hstyle
      split <;> rename_i hblank <;> rw [get?_set_self, hstyle]
      · exact .first .same (by simpa using hblank) ⟨key, rfl⟩
      · rw [terminated]
        split
        · have hempty : declarations ++ Css.counterReset key = declarations ++ "" ++ Css.counterReset key := by
            rw [String.append_empty]
          rw [hempty]
          exact .next .same (by simp) ⟨key, rfl⟩
        · exact .next .same (by simp) ⟨key, rfl⟩
    · rename_i hnone
      rw [get?_set_self, hnone]
      exact .first .same (by simp) ⟨key, rfl⟩

theorem Dressed.kept (h : attrs.Dressed attrs') : attrs.Kept attrs' := by
  induction h with
  | refl => exact .refl attrs
  | addClass _ hname ih => exact ih.addClass (Or.inl hname)
  | addStyle _ key ih => exact ih.addStyle key

theorem Kept.take (h : attrs.Kept attrs') (d : Directive) (tag : String) :
    attrs.Kept (d.take tag attrs').attrs := by
  have hget : ∀ name, (d.take tag attrs').attrs.get? name = none ∨
      (d.take tag attrs').attrs.get? name = attrs'.get? name := by
    intro name
    by_cases hlong : name = d.longName
    · exact Or.inl (hlong ▸ d.get?_longName_take tag attrs')
    · by_cases hname : name = d.name
      · exact Or.inl (hname ▸ d.get?_name_take tag attrs')
      · rw [Directive.take, get?_erase_of_ne _ hlong, get?_erase_of_ne _ hname]
        exact Or.inr rfl
  have hother : ∀ name, name ∉ [d.name, d.longName] →
      (d.take tag attrs').attrs.get? name = attrs'.get? name := by
    intro name hname
    simp only [List.mem_cons, List.not_mem_nil, or_false, not_or] at hname
    rw [Directive.take, get?_erase_of_ne _ hname.2, get?_erase_of_ne _ hname.1]
  refine h.trans ⟨?_, ?_, fun _ name _ => hget name, fun name _ _ hdirective => hother name (hdirective d)⟩
  · rw [hother _ fun hmem => (Directive.ne_of_mem hmem).1 rfl]
    exact .same
  · rw [hother _ fun hmem => (Directive.ne_of_mem hmem).2 rfl]
    exact .same

end Attrs

/-! ## Elements -/

namespace Walk
open Attrs
variable {d : Defaults} {kind : ElementKind} {tag : String} {attrs attrs' : Attrs} {s s' : State}

theorem kept_takeBoth (tag : String) (attrs : Attrs) : attrs.Kept (takeBoth tag attrs).attrs :=
  ((Kept.refl attrs).take .label tag).take .noLabel tag

theorem attrs_enterHeading (d : Defaults) (level : HeadingLevel) (tag : String) (attrs : Attrs) (s : State) :
    (enterHeading d level tag attrs s).attrs = (takeBoth tag attrs).attrs := by
  rw [enterHeading]
  split
  · rfl
  · split <;> rfl

theorem kept_enterHeading (d : Defaults) (level : HeadingLevel) (tag : String) (attrs : Attrs) (s : State) :
    attrs.Kept (enterHeading d level tag attrs s).attrs := by
  rw [attrs_enterHeading]
  exact kept_takeBoth tag attrs

theorem attrs_enterElement (tag : String) (attrs : Attrs) (s : State) :
    (enterElement tag attrs s).attrs = (takeBoth tag attrs).attrs := by
  rw [enterElement]
  by_cases hli : tag = "li"
  · simp only [hli, if_true]
    rfl
  · simp only [hli, if_false]
    rfl

theorem kept_enterElement (tag : String) (attrs : Attrs) (s : State) :
    attrs.Kept (enterElement tag attrs s).attrs := by
  rw [attrs_enterElement]
  exact kept_takeBoth tag attrs

theorem kept_enterList {l : Option ListState} (h : enterList d kind tag attrs s = (attrs', l, s')) :
    attrs.Kept attrs' ∧ ∀ l' ∈ l, l'.classes = [] := by
  have hboth := ((Kept.refl attrs).take .label tag).take .noLabel tag
  rw [enterList] at h
  dsimp only at h
  split at h
  · cases h
    exact ⟨hboth, by simp⟩
  · cases h
    exact ⟨hboth.trans (kept_enterElement tag _ _), by simp⟩
  · cases h
    exact ⟨hboth, by simp⟩

/-- An item keeps what it has but directives, and its list gains classes of labels. -/
theorem kept_enterItem (d : Defaults) (kind : ElementKind) (l : ListState) (tag : String) (attrs : Attrs)
    (s : State) :
    (takeBoth tag attrs).attrs.Kept (enterItem d kind l tag attrs s).1.attrs ∧
      ∀ name ∈ (enterItem d kind l tag attrs s).2.classes, name ∈ l.classes ∨ Css.IsLabelClass name := by
  have hdraw : ∀ (l' : ListState) (s : State), l'.classes = l.classes →
      (takeBoth tag attrs).attrs.Kept (drawItem d l' (takeBoth tag attrs).attrs s).1.attrs ∧
        ∀ name ∈ (drawItem d l' (takeBoth tag attrs).attrs s).2.classes,
          name ∈ l.classes ∨ Css.IsLabelClass name := by
    intro l' s hclasses
    obtain ⟨hdressed, hnew⟩ := Roster.dressed_drawItem (s.increment l'.series).scope.roster d.styled
      l'.series l'.container (takeBoth tag attrs).attrs
    exact ⟨hdressed.kept, fun name hname => (List.mem_append.1 hname).imp (hclasses ▸ ·) (hnew name)⟩
  cases hsup : (takeBoth tag attrs).suppressed with
  | true =>
    rw [enterItem_unlabelled hsup]
    exact ⟨(Kept.refl _).addClass (Or.inr rfl), fun name => Or.inl⟩
  | false =>
    rcases hread : (s.warn (takeBoth tag attrs).warnings).readDirective tag (takeBoth tag attrs).source
      with ⟨e | template, s'⟩
    · rw [enterItem_failed hsup hread]
      exact ⟨.refl _, fun name => Or.inl⟩
    · cases template with
      | none =>
        rw [enterItem_drawn hsup hread]
        exact hdraw l s' rfl
      | some template =>
        rw [enterItem_replaced hsup hread]
        exact hdraw _ _ rfl

end Walk

/-! ## Nodes and drafts -/

namespace Node

/-- What stands for a piece of text: itself, or a reference that shows a label or the marker. -/
inductive Shows (typeset : Draft.Typesetting) : Piece → Node → Prop where
  | literal (s : List Char) : Shows typeset (.literal s) (text (String.ofList s))
  | marker (s : List Char) (selector : Option Selector) (label : Option String) :
      Shows typeset (.marker s selector) (Draft.refSpan typeset s label)

mutual
/-- What labelling may make of a node: text is split into pieces, and a label comes in front of the
content of an element. -/
inductive Annotated (typeset : Draft.Typesetting) : Node → List Node → Prop where
  | text (s : String) : Annotated typeset (text s) [text s]
  | split {pieces : List Piece} {ns : List Node} (h : List.Forall₂ (Shows typeset) pieces ns) :
      Annotated typeset (text (String.ofList (pieces.flatMap Piece.text))) ns
  | element (tag : String) {attrs attrs' : Attrs} (hattrs : attrs.Kept attrs') (label : Option String)
      {children ns : List Node} (h : AnnotatedAll typeset children ns) :
      Annotated typeset (element tag attrs children)
        [element tag attrs' ((label.map (Draft.labelSpan typeset)).toList ++ ns)]

/-- What labelling may make of nodes in a row. -/
inductive AnnotatedAll (typeset : Draft.Typesetting) : List Node → List Node → Prop where
  | nil : AnnotatedAll typeset [] []
  | cons {n : Node} {rest ns ms : List Node} (h : Annotated typeset n ns)
      (hrest : AnnotatedAll typeset rest ms) : AnnotatedAll typeset (n :: rest) (ns ++ ms)
end

end Node

namespace Draft
open Node

mutual
/-- A draft of a node. Its text may be split and its elements may have labels. -/
inductive Of : Node → Draft → Prop where
  | text (s : String) : Of (.text s) (text s)
  | split (target : String) (pieces : List Piece) :
      Of (.text (String.ofList (pieces.flatMap Piece.text))) (split target pieces)
  | element (tag : String) {attrs attrs' : Attrs} (hattrs : attrs.Kept attrs') (label : Option String)
      {ns : List Node} {children : List Draft} (h : OfAll ns children) :
      Of (.element tag attrs ns) (element tag attrs' label children)

/-- Drafts of nodes in a row. -/
inductive OfAll : List Node → List Draft → Prop where
  | nil : OfAll [] []
  | cons {n : Node} {ns : List Node} {m : Draft} {ms : List Draft} (h : Of n m) (hrest : OfAll ns ms) :
      OfAll (n :: ns) (m :: ms)
end

theorem of_markText (target content : String) : Of (.text content) (markText target content) := by
  rw [markText]
  split
  · have h := Of.split target (Piece.scan content)
    rwa [Piece.scan, Piece.text_scanFrom, String.ofList_toList] at h
  · exact .text content

mutual
theorem of_ofNode (n : Node) : Of n (ofNode n) := by
  cases n with
  | text content => exact .text content
  | element tag attrs children => exact .element tag (.refl attrs) none (ofAll_ofNodes children)

theorem ofAll_ofNodes (ns : List Node) : OfAll ns (ofNodes ns) := by
  cases ns with
  | nil => exact .nil
  | cons n rest => exact .cons (of_ofNode n) (ofAll_ofNodes rest)
end

mutual
theorem Of.markRefs {n : Node} {m : Draft} (h : Of n m) (target : Option String) :
    Of n (m.markRefs target) := by
  cases h with
  | text content =>
    cases target with
    | none => exact .text content
    | some target => exact of_markText target content
  | split t pieces => exact .split t pieces
  | element tag hattrs label h => exact .element tag hattrs label (h.markRefsAll _)

theorem OfAll.markRefsAll {ns : List Node} {ms : List Draft} (h : OfAll ns ms) (target : Option String) :
    OfAll ns (markRefsAll target ms) := by
  cases h with
  | nil => exact .nil
  | cons h hrest => exact .cons (h.markRefs target) (hrest.markRefsAll target)
end

mutual
theorem Of.annotated {n : Node} {m : Draft} (h : Of n m) (typeset : Typesetting) (table : RefTable) :
    n.Annotated typeset (m.toNodes typeset table) := by
  cases h with
  | text s => exact .text s
  | split target pieces =>
    refine .split (List.forall₂_map_right_iff.2 (List.forall₂_same.2 fun piece _ => ?_))
    cases piece with
    | literal s => exact .literal s
    | marker s selector => exact .marker s selector _
  | element tag hattrs label h => exact .element tag hattrs label (h.annotated typeset table)

theorem OfAll.annotated {ns : List Node} {ms : List Draft} (h : OfAll ns ms) (typeset : Typesetting)
    (table : RefTable) : AnnotatedAll typeset ns (toNodesAll typeset table ms) := by
  cases h with
  | nil => exact .nil
  | cons h hrest => exact .cons (h.annotated typeset table) (hrest.annotated typeset table)
end

/-! ## The walk -/

open Walk
variable (d : Defaults)

/-- Each part of a walk leaves a draft one of the same node. A list gains classes of labels alone. -/
theorem of_cases : WalkCases d (fun m s => ∀ n, Of n m → Of n (walk d m s).1)
    (fun ms s => ∀ ns, OfAll ns ms → OfAll ns (walkAll d ms s).1)
    fun kind ms l s => ∀ ns, OfAll ns ms → (∀ name ∈ l.classes, Css.IsLabelClass name) →
      OfAll ns (walkItems d kind ms l s).1 ∧
        ∀ name ∈ (walkItems d kind ms l s).2.1.classes, Css.IsLabelClass name where
  stopped m s hs n h := by rwa [walk_stopped hs]
  leaf m s _ hm n h := by rwa [walk_leaf hm]
  heading level tag attrs label children s hs hk n h := by
    cases h with
    | element tag hattrs label h =>
      rw [walk_heading hs hk]
      exact .element tag (hattrs.trans (kept_enterHeading d level tag attrs s)) _ h
  other tag attrs label children s hs hk hchildren n h := by
    cases h with
    | element tag hattrs label h =>
      rw [walk_other hs hk]
      exact .element tag (hattrs.trans (kept_enterElement tag attrs s)) label (hchildren _ h)
  bareList kind tag attrs attrs' label children s s' hs hk hlist he hchildren n h := by
    cases h with
    | element tag hattrs label h =>
      rw [walk_bareList hs hk hlist he]
      exact .element tag (hattrs.trans (kept_enterList he).1) label (hchildren _ h)
  list kind tag attrs attrs' label children l s s' hs hk hlist he hchildren n h := by
    cases h with
    | element tag hattrs label h =>
      obtain ⟨hkept, hclasses⟩ := kept_enterList he
      obtain ⟨hitems, hl⟩ := hchildren _ h (by simp [hclasses l rfl])
      rw [walk_list hs hk hlist he]
      exact .element tag (hattrs.trans (hkept.trans (Attrs.Dressed.refl.foldl_addClass hl).kept)) label hitems
  nil s ns h := by rwa [walkAll_nil]
  cons m rest s hm hrest ns h := by
    cases h with
    | cons h hns =>
      rw [walkAll_cons]
      exact .cons (hm _ h) (hrest _ hns)
  itemsStopped kind ms l s hs ns h hl := by
    rw [walkItems_stopped hs]
    exact ⟨h, hl⟩
  itemsNil kind l s _ ns h hl := by
    rw [walkItems_nil]
    exact ⟨h, hl⟩
  itemsLeaf kind m rest l s _ hm hrest ns h hl := by
    cases h with
    | cons h hns =>
      obtain ⟨hitems, hl'⟩ := hrest _ hns hl
      rw [walkItems_leaf hm]
      exact ⟨.cons h hitems, hl'⟩
  item kind attrs label content rest l s hs hcontent hrest ns h hl := by
    cases h with
    | cons h hns =>
      cases h with
      | element tag hattrs label h =>
        obtain ⟨hkept, hclasses⟩ := kept_enterItem d kind l "li" attrs s
        obtain ⟨hitems, hl'⟩ := hrest _ hns fun name hname => (hclasses name hname).elim (hl name) id
        have hattrs := hattrs.trans ((kept_takeBoth "li" attrs).trans hkept)
        rw [walkItems_item hs]
        exact ⟨.cons (.element "li" hattrs _ (hcontent _ h)) hitems, hl'⟩
  itemsOther kind tag attrs label content rest l s hs hli hm hrest ns h hl := by
    cases h with
    | cons h hns =>
      obtain ⟨hitems, hl'⟩ := hrest _ hns hl
      rw [walkItems_other hs hli]
      exact ⟨.cons (hm _ h) hitems, hl'⟩

/-- A walk leaves a draft one of the same node. -/
theorem Of.walk {n : Node} {m : Draft} (h : Of n m) (s : State) : Of n (walk d m s).1 :=
  (of_cases d).walk m s n h

end Draft

/-! ## Runs -/

theorem Labelling.of_draft (l : Labelling) (c : Template.Context) (doc : Node) :
    Draft.Of doc (l.draft c (.ofNode doc)).draft ∧
      ∀ s, doc = .text s → (l.draft c (.ofNode doc)).draft = .text s := by
  rw [draft]
  split
  · exact ⟨Draft.of_ofNode doc, fun s hs => by rw [hs, Draft.ofNode]⟩
  · refine ⟨((Draft.of_ofNode doc).markRefs none).walk _ _, fun s hs => ?_⟩
    rw [hs]
    rfl

end Rubric
