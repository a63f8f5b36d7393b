import Rubric.Proofs.Labelling.Content
import Rubric.Proofs.Outline.Headings

/-!
# The elements of a document outside of the content of headings

* `OuterElement` : an element that is not inside a heading, with the place of the list that it is an item of;
* `Draft.outerElements` : those of a draft, in document order;
* `Draft.bare` : a draft with nothing on these elements; `bare_walk` : a walk changes nothing else;
* `Node.Parted` : text that has been split at markers, which is all that happens inside of headings;
* `Node.Relabelled` : what becomes of a node if its outer elements become others;
* `relabelled_toNodes` : so the outer elements of a draft make its document out of the one it comes from.
-/

namespace Rubric

/-- An element outside of the content of headings. -/
structure OuterElement where
  tag : String
  attrs : Attrs
  /-- The text of its label. -/
  label : Option String := none
  /-- The place of the list whose item it is, counted in document order. -/
  list : Option Nat := none
deriving DecidableEq

namespace Draft

mutual
/-- The elements at and below a node that are not inside a heading, in document order. The first has the place
`next`, and `list` is the place of the list around the node. -/
def outerElements (next : Nat) (list : Option Nat) : Draft → List OuterElement
  | element tag attrs label children =>
    ⟨tag, attrs, label, if tag = "li" then list else none⟩ ::
      match ElementKind.ofTag? tag with
      | some (.heading _) => []
      | some _ => outerElementsAll (next + 1) (some next) children
      | none => outerElementsAll (next + 1) none children
  | text _ | split _ _ => []

def outerElementsAll (next : Nat) (list : Option Nat) : List Draft → List OuterElement
  | [] => []
  | n :: rest =>
    outerElements next list n ++ outerElementsAll (next + (outerElements next list n).length) list rest
end

section Cases
variable {next : Nat} {list : Option Nat} {kind : ElementKind} {tag : String} {attrs : Attrs}
  {label : Option String} {children : List Draft}

theorem outerElements_leaf {n : Draft} (hn : n.Leaf) : n.outerElements next list = [] := by
  cases n with
  | text => rfl
  | split => rfl
  | element => exact (hn _ _ _ _ rfl).elim

theorem outerElements_heading {level : HeadingLevel} (hk : ElementKind.ofTag? tag = some (.heading level)) :
    (element tag attrs label children).outerElements next list =
      [⟨tag, attrs, label, if tag = "li" then list else none⟩] := by
  rw [outerElements, hk]

theorem outerElements_list (hk : ElementKind.ofTag? tag = some kind) (hlist : kind.isList) :
    (element tag attrs label children).outerElements next list =
      ⟨tag, attrs, label, if tag = "li" then list else none⟩ ::
        outerElementsAll (next + 1) (some next) children := by
  rw [outerElements, hk]
  cases kind with
  | heading => cases hlist
  | orderedList => rfl
  | unorderedList => rfl

theorem outerElements_other (hk : ElementKind.ofTag? tag = none) :
    (element tag attrs label children).outerElements next list =
      ⟨tag, attrs, label, if tag = "li" then list else none⟩ ::
        outerElementsAll (next + 1) none children := by
  rw [outerElements, hk]

end Cases

/-! ## All but the outer elements -/

mutual
/-- A draft whose elements outside of the content of headings have no attributes and no labels. -/
def bare : Draft → Draft
  | text content => text content
  | split target pieces => split target pieces
  | element tag _ _ children =>
    element tag [] none
      (match ElementKind.ofTag? tag with
      | some (.heading _) => children
      | _ => bareAll children)

def bareAll : List Draft → List Draft
  | [] => []
  | n :: rest => bare n :: bareAll rest
end

section Cases
variable {tag : String} {attrs : Attrs} {label : Option String} {children : List Draft}

theorem bare_heading {level : HeadingLevel} (hk : ElementKind.ofTag? tag = some (.heading level)) :
    (element tag attrs label children).bare = element tag [] none children := by
  rw [bare, hk]

theorem bare_other (hk : ∀ level, ElementKind.ofTag? tag ≠ some (.heading level)) :
    (element tag attrs label children).bare = element tag [] none (bareAll children) := by
  rw [bare]
  split
  · rename_i level hlevel
    exact absurd hlevel (hk level)
  · rfl

theorem bare_leaf {n : Draft} (hn : n.Leaf) : n.bare = n := by
  cases n with
  | text => rfl
  | split => rfl
  | element => exact (hn _ _ _ _ rfl).elim

theorem leaf_of_bare {n : Draft} (hn : n.bare.Leaf) : n.Leaf := by
  cases n with
  | text content => exact leaf_text content
  | split target pieces => exact leaf_split target pieces
  | element => exact (hn _ _ _ _ rfl).elim

end Cases

/-- A walk changes the outer elements alone. -/
theorem bare_cases (d : Defaults) :
    WalkCases d (fun n s => (walk d n s).1.bare = n.bare) (fun ns s => bareAll (walkAll d ns s).1 = bareAll ns)
      (fun kind ns l s => bareAll (walkItems d kind ns l s).1 = bareAll ns) where
  stopped n s h := by rw [walk_stopped h]
  leaf n s h hn := by rw [walk_leaf hn]
  heading level tag attrs label children s h hk := by rw [walk_heading h hk, bare_heading hk, bare_heading hk]
  other tag attrs label children s h hk hchildren := by
    have hnot := not_heading_of_none hk
    rw [walk_other h hk, bare_other hnot, bare_other hnot, hchildren]
  bareList kind tag attrs attrs' label children s s' h hk hlist he hchildren := by
    have hnot := not_heading_of_list hk hlist
    rw [walk_bareList h hk hlist he, bare_other hnot, bare_other hnot, hchildren]
  list kind tag attrs attrs' label children l s s' h hk hlist he hchildren := by
    have hnot := not_heading_of_list hk hlist
    rw [walk_list h hk hlist he, bare_other hnot, bare_other hnot, hchildren]
  nil s := by rw [walkAll_nil]
  cons n rest s hn hrest := by rw [walkAll_cons, bareAll, bareAll, hn, hrest]
  itemsStopped kind ns l s h := by rw [walkItems_stopped h]
  itemsNil kind l s h := by rw [walkItems_nil]
  itemsLeaf kind n rest l s h hn hrest := by rw [walkItems_leaf hn, bareAll, bareAll, hrest]
  item kind attrs label content rest l s h hcontent hrest := by
    rw [walkItems_item h, bareAll, bareAll, hrest, bare_other not_heading_li, bare_other not_heading_li,
      hcontent]
  itemsOther kind tag attrs label content rest l s h hli hn hrest := by
    rw [walkItems_other h hli, bareAll, bareAll, hn, hrest]

theorem bare_walk (d : Defaults) (n : Draft) (s : State) : (walk d n s).1.bare = n.bare :=
  (bare_cases d).walk n s

mutual
theorem outerElements_markRefs (target : Option String) (next : Nat) (list : Option Nat) (n : Draft) :
    (n.markRefs target).outerElements next list = n.outerElements next list := by
  cases n with
  | text content =>
    cases target with
    | none => rfl
    | some target =>
      rw [markRefs, Option.elim_some, markText]
      split <;> rfl
  | split => rfl
  | element tag attrs label children =>
    have hlist := outerElementsAll_markRefsAll (targetInside target tag attrs) (next + 1) (some next) children
    have hother := outerElementsAll_markRefsAll (targetInside target tag attrs) (next + 1) none children
    rw [markRefs, outerElements, outerElements]
    simp only [hlist, hother]

theorem outerElementsAll_markRefsAll (target : Option String) (next : Nat) (list : Option Nat)
    (ns : List Draft) :
    outerElementsAll next list (markRefsAll target ns) = outerElementsAll next list ns := by
  cases ns with
  | nil => rfl
  | cons n rest =>
    rw [markRefsAll, outerElementsAll, outerElementsAll, outerElements_markRefs, outerElementsAll_markRefsAll]
end

end Draft

/-! ## Documents -/

namespace Node

/-- The elements of a document that are not inside a heading, in document order. -/
def outerElements (n : Node) : List OuterElement := (Draft.ofNode n).outerElements 0 none

mutual
/-- What becomes of a node inside a heading: text may be split at its markers. -/
inductive Parted (typeset : Draft.Typesetting) : Node → List Node → Prop where
  | text (s : String) : Parted typeset (text s) [text s]
  | split (s : String) {ns : List Node} (h : List.Forall₂ (Shows typeset) (Piece.scan s) ns) :
      Parted typeset (text s) ns
  | element (tag : String) (attrs : Attrs) {children ns : List Node} (h : PartedAll typeset children ns) :
      Parted typeset (element tag attrs children) [element tag attrs ns]

/-- What becomes of nodes in a row inside a heading. -/
inductive PartedAll (typeset : Draft.Typesetting) : List Node → List Node → Prop where
  | nil : PartedAll typeset [] []
  | cons {n : Node} {rest ns ms : List Node} (h : Parted typeset n ns) (hrest : PartedAll typeset rest ms) :
      PartedAll typeset (n :: rest) (ns ++ ms)
end

mutual
/-- What becomes of a node if its outer elements become the given ones: they have their attributes, and their
labels in front of their content. -/
inductive Relabelled (typeset : Draft.Typesetting) : List OuterElement → Node → List Node → Prop where
  | text {s : String} {ns : List Node} (h : (text s).Parted typeset ns) : Relabelled typeset [] (text s) ns
  | heading {level : HeadingLevel} (e : OuterElement) (hk : ElementKind.ofTag? e.tag = some (.heading level))
      (attrs : Attrs) {children ns : List Node} (h : PartedAll typeset children ns) :
      Relabelled typeset [e] (element e.tag attrs children)
        [element e.tag e.attrs ((e.label.map (Draft.labelSpan typeset)).toList ++ ns)]
  | element (e : OuterElement) (hk : ∀ level, ElementKind.ofTag? e.tag ≠ some (.heading level))
      (attrs : Attrs) {es : List OuterElement} {children ns : List Node}
      (h : RelabelledAll typeset es children ns) :
      Relabelled typeset (e :: es) (element e.tag attrs children)
        [element e.tag e.attrs ((e.label.map (Draft.labelSpan typeset)).toList ++ ns)]

/-- What becomes of nodes in a row. -/
inductive RelabelledAll (typeset : Draft.Typesetting) : List OuterElement → List Node → List Node → Prop where
  | nil : RelabelledAll typeset [] [] []
  | cons {es es' : List OuterElement} {n : Node} {rest ns ms : List Node} (h : Relabelled typeset es n ns)
      (hrest : RelabelledAll typeset es' rest ms) : RelabelledAll typeset (es ++ es') (n :: rest) (ns ++ ms)
end

end Node

namespace Draft
open Node
variable (typeset : Typesetting) (table : RefTable)

theorem parted_markText (target s : String) :
    (Node.text s).Parted typeset ((markText target s).toNodes typeset table) := by
  rw [markText]
  split
  · refine .split s (List.forall₂_map_right_iff.2 (List.forall₂_same.2 fun piece _ => ?_))
    cases piece with
    | literal s => exact .literal s
    | marker s selector => exact .marker s selector _
  · exact .text s

theorem parted_text (target : Option String) (s : String) :
    (Node.text s).Parted typeset (((ofNode (.text s)).markRefs target).toNodes typeset table) := by
  cases target with
  | none => exact .text s
  | some target => exact parted_markText typeset table target s

theorem leaf_markRefs_text (target : Option String) (s : String) :
    ((ofNode (.text s)).markRefs target).Leaf := by
  cases target with
  | none => exact leaf_text s
  | some target =>
    rw [ofNode, markRefs, Option.elim_some, markText]
    split
    · exact leaf_split target _
    · exact leaf_text s

mutual
theorem parted_toNodes (n : Node) (target : Option String) :
    n.Parted typeset (((ofNode n).markRefs target).toNodes typeset table) := by
  cases n with
  | text s => exact parted_text typeset table target s
  | element tag attrs children => exact .element tag attrs (parted_toNodesAll children _)

theorem parted_toNodesAll (ns : List Node) (target : Option String) :
    PartedAll typeset ns (toNodesAll typeset table (markRefsAll target (ofNodes ns))) := by
  cases ns with
  | nil => exact .nil
  | cons n rest => exact .cons (parted_toNodes n target) (parted_toNodesAll rest target)
end

mutual
/-- The nodes of a draft that differs from a document in its outer elements. -/
theorem relabelled_toNodes (n : Node) (target : Option String) {m : Draft}
    (hm : m.bare = ((ofNode n).markRefs target).bare) (next : Nat) (list : Option Nat) :
    n.Relabelled typeset (m.outerElements next list) (m.toNodes typeset table) := by
  cases n with
  | text s =>
    -- the draft of text is text, or text in pieces
    rw [bare_leaf (leaf_markRefs_text target s)] at hm
    have hleaf : m.Leaf := leaf_of_bare (hm ▸ leaf_markRefs_text target s)
    rw [bare_leaf hleaf] at hm
    rw [outerElements_leaf hleaf, hm]
    exact .text (parted_text typeset table target s)
  | element tag attrs children =>
    rw [ofNode, markRefs] at hm
    cases m with
    | text | split => cases hm
    | element tag' attrs' label ms =>
      have htag : tag' = tag := (Draft.element.inj hm).1
      subst htag
      cases hk : ElementKind.ofTag? tag' with
      | none =>
        have hnot := not_heading_of_none hk
        rw [bare_other hnot, bare_other hnot] at hm
        rw [outerElements_other hk]
        exact .element ⟨tag', attrs', label, _⟩ hnot attrs
          (relabelled_toNodesAll children _ (Draft.element.inj hm).2.2.2 _ _)
      | some kind =>
        by_cases hlist : kind.isList
        · have hnot := not_heading_of_list hk hlist
          rw [bare_other hnot, bare_other hnot] at hm
          rw [outerElements_list hk hlist]
          exact .element ⟨tag', attrs', label, _⟩ hnot attrs
            (relabelled_toNodesAll children _ (Draft.element.inj hm).2.2.2 _ _)
        · obtain ⟨level, rfl⟩ := ElementKind.exists_heading hlist
          rw [bare_heading hk, bare_heading hk] at hm
          obtain ⟨-, -, -, rfl⟩ := Draft.element.inj hm
          rw [outerElements_heading hk]
          exact .heading ⟨tag', attrs', label, _⟩ hk attrs (parted_toNodesAll typeset table children _)

theorem relabelled_toNodesAll (ns : List Node) (target : Option String) {ms : List Draft}
    (hms : bareAll ms = bareAll (markRefsAll target (ofNodes ns))) (next : Nat) (list : Option Nat) :
    RelabelledAll typeset (outerElementsAll next list ms) ns (toNodesAll typeset table ms) := by
  cases ns with
  | nil =>
    cases ms with
    | nil => exact .nil
    | cons => cases hms
  | cons n rest =>
    cases ms with
    | nil => cases hms
    | cons m ms =>
      rw [bareAll, ofNodes, markRefsAll, bareAll] at hms
      injection hms with hm hms
      exact .cons (relabelled_toNodes n target hm next list) (relabelled_toNodesAll rest target hms _ list)
end

end Draft
end Rubric
