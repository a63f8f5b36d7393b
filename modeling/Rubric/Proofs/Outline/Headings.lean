import Rubric.Proofs.Labelling.Changes
import Rubric.Proofs.Labelling.Equations

/-!
# The headings of documents and drafts

* `Node.outerHeadings`, `headingLevels` : the headings that are not inside another one;
* `Node.shownLabel` : the element that shows a label; `Node.withLabel` : an element with a label in front;
* `Node.Undirected`, `Draft.Plain` : a document without directives, a draft without labels and
  directives;
* `levels_toNodes`, `headingLevels_markRefs`, `headingLevels_ofNode` : a document, its draft and the
  document of a draft have the same headings;
* `Node.BareLists`, `Draft.BareLists` : no list has a heading in it.
-/

namespace Rubric

/-! ## The headings of a document -/

namespace Node

mutual
/-- The headings at and below a node that are not inside another one, with their levels. -/
def outerHeadings : Node → List (HeadingLevel × Node)
  | text _ => []
  | element tag attrs children =>
    match ElementKind.ofTag? tag with
    | some (.heading l) => [(l, element tag attrs children)]
    | _ => outerHeadingsAll children

def outerHeadingsAll : List Node → List (HeadingLevel × Node)
  | [] => []
  | n :: rest => outerHeadings n ++ outerHeadingsAll rest
end

/-- The levels of the headings that are not inside another one, in document order. -/
def headingLevels (n : Node) : List HeadingLevel := n.outerHeadings.map Prod.fst

/-- The element that shows a label. -/
def shownLabel (label : String) : Node := element "span" [("class", "la-label")] [text label]

theorem labelSpan_plainText : Draft.labelSpan Draft.plainText = shownLabel := rfl

/-- An element with a label in front of its content, if there is one. -/
def withLabel (label : Option String) : Node → Node
  | text content => text content
  | element tag attrs children => element tag attrs ((label.map shownLabel).toList ++ children)

def Undirected (n : Node) : Prop :=
  ∀ m ∈ n.preorder, ∀ attrs ∈ m.attrs?, attrs.Undirected

instance (n : Node) : Decidable n.Undirected := inferInstanceAs (Decidable (∀ _ ∈ _, _))

theorem outerHeadings_heading {tag : String} {l : HeadingLevel}
    (h : ElementKind.ofTag? tag = some (.heading l)) (attrs : Attrs) (children : List Node) :
    outerHeadings (element tag attrs children) = [(l, element tag attrs children)] := by
  rw [outerHeadings, h]

theorem outerHeadings_other {tag : String}
    (h : ∀ l, ElementKind.ofTag? tag ≠ some (.heading l)) (attrs : Attrs) (children : List Node) :
    outerHeadings (element tag attrs children) = outerHeadingsAll children := by
  rw [outerHeadings]
  split
  · rename_i l hl
    exact absurd hl (h l)
  · rfl

@[simp] theorem outerHeadingsAll_append (ns ms : List Node) :
    outerHeadingsAll (ns ++ ms) = outerHeadingsAll ns ++ outerHeadingsAll ms := by
  induction ns with
  | nil => rfl
  | cons n rest ih => rw [List.cons_append, outerHeadingsAll, ih, outerHeadingsAll, List.append_assoc]

def labelled (label : Option String) (heading : HeadingLevel × Node) : HeadingLevel × Node :=
  (heading.1, heading.2.withLabel label)

theorem map_labelled {labels : List (Option String)} {headings : List (HeadingLevel × Node)}
    (h : labels.length = headings.length) :
    (List.zipWith labelled labels headings).map Prod.fst = headings.map Prod.fst := by
  induction labels generalizing headings with
  | nil => rw [List.eq_nil_of_length_eq_zero h.symm]; rfl
  | cons label rest ih =>
    cases headings with
    | nil => cases h
    | cons e headings =>
      rw [List.zipWith_cons_cons, List.map_cons, List.map_cons, ih (Nat.succ.inj h)]
      rfl

end Node

/-! ## The headings of a draft -/

namespace Draft
open Node

mutual
def headingLevels : Draft → List HeadingLevel
  | text _ | split _ _ => []
  | element tag _ _ children =>
    match ElementKind.ofTag? tag with
    | some (.heading l) => [l]
    | _ => headingLevelsAll children

def headingLevelsAll : List Draft → List HeadingLevel
  | [] => []
  | d :: rest => headingLevels d ++ headingLevelsAll rest
end

mutual
/-- A draft without labels and directives. -/
def Plain : Draft → Prop
  | text _ | split _ _ => True
  | element _ attrs label children => attrs.Undirected ∧ label = none ∧ PlainAll children

def PlainAll : List Draft → Prop
  | [] => True
  | d :: rest => Plain d ∧ PlainAll rest
end

theorem headingLevels_leaf {n : Draft} (hn : n.Leaf) : headingLevels n = [] := by
  cases n with
  | text => rfl
  | split => rfl
  | element => exact (hn _ _ _ _ rfl).elim

theorem headingLevels_heading {tag : String} {l : HeadingLevel}
    (h : ElementKind.ofTag? tag = some (.heading l)) (attrs : Attrs) (label : Option String)
    (children : List Draft) : headingLevels (element tag attrs label children) = [l] := by
  rw [headingLevels, h]

theorem headingLevels_other {tag : String}
    (h : ∀ l, ElementKind.ofTag? tag ≠ some (.heading l)) (attrs : Attrs) (label : Option String)
    (children : List Draft) :
    headingLevels (element tag attrs label children) = headingLevelsAll children := by
  rw [headingLevels]
  split
  · rename_i l hl
    exact absurd hl (h l)
  · rfl

theorem not_heading_span : ∀ l, ElementKind.ofTag? "span" ≠ some (.heading l) :=
  not_heading_of_none (by decide)

@[simp] theorem outerHeadings_labelSpan (label : String) :
    outerHeadings (labelSpan plainText label) = [] := by
  rw [labelSpan, outerHeadings_other not_heading_span]
  rfl

@[simp] theorem outerHeadingsAll_label (label : Option String) :
    outerHeadingsAll (label.map (labelSpan plainText)).toList = [] := by
  cases label with
  | none => rfl
  | some label => simp [outerHeadingsAll]

theorem outerHeadingsAll_pieces (table : RefTable) (target : String) (pieces : List Piece) :
    outerHeadingsAll (pieces.map (pieceNode plainText table target)) = [] := by
  induction pieces with
  | nil => rfl
  | cons p rest ih =>
    rw [List.map_cons, outerHeadingsAll, ih, List.append_nil]
    cases p with
    | literal s => rfl
    | marker s selector =>
      rw [pieceNode, refSpan, outerHeadings_other not_heading_span]
      cases selector.bind fun sel => table.label? ⟨target, sel⟩ <;> rfl

mutual
/-- The headings of a finished document are those of its draft. -/
theorem levels_toNodes (table : RefTable) (n : Draft) :
    (outerHeadingsAll (toNodes plainText table n)).map Prod.fst = headingLevels n := by
  cases n with
  | text content => rfl
  | split target pieces =>
    rw [toNodes, outerHeadingsAll_pieces]
    rfl
  | element tag attrs label children =>
    rw [toNodes, outerHeadingsAll, outerHeadingsAll, List.append_nil]
    by_cases h : ∃ l, ElementKind.ofTag? tag = some (.heading l)
    · obtain ⟨l, hl⟩ := h
      rw [outerHeadings_heading hl, headingLevels_heading hl]
      rfl
    · have hother : ∀ l, ElementKind.ofTag? tag ≠ some (.heading l) := fun l hl => h ⟨l, hl⟩
      rw [outerHeadings_other hother, headingLevels_other hother, outerHeadingsAll_append,
        outerHeadingsAll_label, List.nil_append]
      exact levels_toNodesAll table children

theorem levels_toNodesAll (table : RefTable) (ns : List Draft) :
    (outerHeadingsAll (toNodesAll plainText table ns)).map Prod.fst = headingLevelsAll ns := by
  cases ns with
  | nil => rfl
  | cons n rest =>
    rw [toNodesAll, outerHeadingsAll_append, List.map_append, headingLevelsAll,
      levels_toNodes table n, levels_toNodesAll table rest]
end

mutual
/-- References do not change the headings. -/
theorem headingLevels_markRefs (target : Option String) (n : Draft) :
    headingLevels (markRefs target n) = headingLevels n := by
  cases n with
  | text content =>
    cases target with
    | none => rfl
    | some target =>
      rw [markRefs, Option.elim_some, markText]
      split <;> rfl
  | split target pieces => rfl
  | element tag attrs label children =>
    rw [markRefs]
    by_cases h : ∃ l, ElementKind.ofTag? tag = some (.heading l)
    · obtain ⟨l, hl⟩ := h
      rw [headingLevels_heading hl, headingLevels_heading hl]
    · have hother : ∀ l, ElementKind.ofTag? tag ≠ some (.heading l) := fun l hl => h ⟨l, hl⟩
      rw [headingLevels_other hother, headingLevels_other hother]
      exact headingLevelsAll_markRefsAll _ children

theorem headingLevelsAll_markRefsAll (target : Option String) (ns : List Draft) :
    headingLevelsAll (markRefsAll target ns) = headingLevelsAll ns := by
  cases ns with
  | nil => rfl
  | cons n rest =>
    rw [markRefsAll, headingLevelsAll, headingLevelsAll, headingLevels_markRefs target n,
      headingLevelsAll_markRefsAll target rest]
end

mutual
/-- The headings of a document are those of its draft. -/
theorem headingLevels_ofNode (n : Node) : headingLevels (ofNode n) = n.headingLevels := by
  cases n with
  | text content => rfl
  | element tag attrs children =>
    rw [ofNode, Node.headingLevels]
    by_cases h : ∃ l, ElementKind.ofTag? tag = some (.heading l)
    · obtain ⟨l, hl⟩ := h
      rw [headingLevels_heading hl, outerHeadings_heading hl]
      rfl
    · have hother : ∀ l, ElementKind.ofTag? tag ≠ some (.heading l) := fun l hl => h ⟨l, hl⟩
      rw [headingLevels_other hother, outerHeadings_other hother]
      exact headingLevelsAll_ofNodes children

theorem headingLevelsAll_ofNodes (ns : List Node) :
    headingLevelsAll (ofNodes ns) = (outerHeadingsAll ns).map Prod.fst := by
  cases ns with
  | nil => rfl
  | cons n rest =>
    rw [ofNodes, headingLevelsAll, outerHeadingsAll, List.map_append, headingLevels_ofNode n,
      headingLevelsAll_ofNodes rest]
    rfl
end

mutual
theorem Plain.markRefs {n : Draft} (h : n.Plain) (target : Option String) :
    (n.markRefs target).Plain := by
  cases n with
  | text content =>
    cases target with
    | none => trivial
    | some target =>
      rw [Draft.markRefs, Option.elim_some, markText]
      split <;> trivial
  | split target pieces => trivial
  | element tag attrs label children =>
    obtain ⟨hattrs, hlabel, hchildren⟩ := h
    exact ⟨hattrs, hlabel, PlainAll.markRefsAll hchildren _⟩

theorem PlainAll.markRefsAll {ns : List Draft} (h : PlainAll ns) (target : Option String) :
    PlainAll (Draft.markRefsAll target ns) := by
  cases ns with
  | nil => trivial
  | cons n rest => exact ⟨Plain.markRefs h.1 target, PlainAll.markRefsAll h.2 target⟩
end

mutual
theorem plain_ofNode (n : Node)
    (h : n.Undirected) :
    (ofNode n).Plain := by
  cases n with
  | text content => trivial
  | element tag attrs children =>
    refine ⟨h _ (List.mem_cons_self ..) attrs rfl, rfl, plainAll_ofNodes children fun m hm => ?_⟩
    exact h m (List.mem_cons_of_mem _ hm)

theorem plainAll_ofNodes (ns : List Node)
    (h : ∀ m ∈ preorderAll ns, ∀ attrs ∈ m.attrs?, attrs.Undirected) :
    PlainAll (ofNodes ns) := by
  cases ns with
  | nil => trivial
  | cons n rest =>
    exact ⟨plain_ofNode n fun m hm => h m (List.mem_append_left _ hm),
      plainAll_ofNodes rest fun m hm => h m (List.mem_append_right _ hm)⟩
end

end Draft

/-! ## Documents without headings in lists -/

namespace Node

def isList : Node → Bool
  | text _ => false
  | element tag _ _ => (ElementKind.ofTag? tag).any ElementKind.isList

/-- No list has a heading in it. -/
def BareLists (n : Node) : Prop := ∀ m ∈ n.preorder, m.isList → m.headingLevels = []

instance (n : Node) : Decidable n.BareLists := inferInstanceAs (Decidable (∀ _ ∈ _, _ → _))

end Node

namespace Draft
open Node

mutual
/-- No list has a heading in it. -/
def BareLists : Draft → Prop
  | text _ | split _ _ => True
  | element tag _ _ children =>
    ((ElementKind.ofTag? tag).any ElementKind.isList → headingLevelsAll children = []) ∧
      BareListsAll children

def BareListsAll : List Draft → Prop
  | [] => True
  | n :: rest => BareLists n ∧ BareListsAll rest
end

theorem headingLevels_list {tag : String} {kind : ElementKind} (hk : ElementKind.ofTag? tag = some kind)
    (hlist : kind.isList) {attrs : Attrs} {label : Option String} {children : List Draft}
    (h : (element tag attrs label children).BareLists) :
    headingLevels (element tag attrs label children) = [] := by
  rw [headingLevels_other (not_heading_of_list hk hlist)]
  exact h.1 (by rw [hk]; exact hlist)

theorem not_heading_of_any {tag : String} (h : (ElementKind.ofTag? tag).any ElementKind.isList)
    (l : HeadingLevel) : ElementKind.ofTag? tag ≠ some (.heading l) := by
  rintro hl
  rw [hl] at h
  cases h

mutual
theorem bareLists_ofNode (n : Node) (h : n.BareLists) : (ofNode n).BareLists := by
  cases n with
  | text content => trivial
  | element tag attrs children =>
    refine ⟨fun hlist => ?_, bareListsAll_ofNodes children fun m hm => ?_⟩
    · have hlevels := h _ (List.mem_cons_self ..) hlist
      rw [← headingLevels_ofNode, ofNode, headingLevels_other (not_heading_of_any hlist)] at hlevels
      exact hlevels
    · exact h m (List.mem_cons_of_mem _ hm)

theorem bareListsAll_ofNodes (ns : List Node)
    (h : ∀ m ∈ preorderAll ns, m.isList → m.headingLevels = []) : BareListsAll (ofNodes ns) := by
  cases ns with
  | nil => trivial
  | cons n rest =>
    exact ⟨bareLists_ofNode n fun m hm => h m (List.mem_append_left _ hm),
      bareListsAll_ofNodes rest fun m hm => h m (List.mem_append_right _ hm)⟩
end

mutual
theorem BareLists.markRefs {n : Draft} (h : n.BareLists) (target : Option String) :
    (n.markRefs target).BareLists := by
  cases n with
  | text content =>
    cases target with
    | none => trivial
    | some target =>
      rw [Draft.markRefs, Option.elim_some, markText]
      split <;> trivial
  | split target pieces => trivial
  | element tag attrs label children =>
    refine ⟨fun hlist => ?_, BareListsAll.markRefsAll h.2 _⟩
    rw [headingLevelsAll_markRefsAll]
    exact h.1 hlist

theorem BareListsAll.markRefsAll {ns : List Draft} (h : BareListsAll ns) (target : Option String) :
    BareListsAll (Draft.markRefsAll target ns) := by
  cases ns with
  | nil => trivial
  | cons n rest => exact ⟨BareLists.markRefs h.1 target, BareListsAll.markRefsAll h.2 target⟩
end

end Draft
end Rubric
