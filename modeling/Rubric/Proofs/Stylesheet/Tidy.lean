import Rubric.Proofs.Stylesheet.Items

/-!
# The items of drafts

* `Node.OnlyItems`, `Node.Unclassed` : lists have no elements but items for children, and no element has
  a class that labels bring;
* `Draft.Tidy` : the draft of such a document without directives and labels;
* `Draft.items_li`, `items_inner` : the items of the nodes of a draft;
* `Draft.untouched` : where nothing has been labelled there is no label, as text or by counters.
-/

namespace Rubric

namespace Node

/-- Lists have no elements but items for children. -/
def OnlyItems (n : Node) : Prop :=
  ∀ m ∈ n.preorder, m.isList → m.children.all fun c => c.tag?.all (· == "li")

instance (n : Node) : Decidable n.OnlyItems := inferInstanceAs (Decidable (∀ _ ∈ _, _ → _))

def Unclassed (n : Node) : Prop := ∀ m ∈ n.preorder, ∀ attrs ∈ m.attrs?, attrs.Unclassed

instance (n : Node) : Decidable n.Unclassed := inferInstanceAs (Decidable (∀ _ ∈ _, _))

end Node

namespace Draft
open Node

/-- No element other than an item. -/
def isItem : Draft → Bool
  | element tag .. => tag == "li"
  | _ => true

def isElement : Draft → Bool
  | element .. => true
  | _ => false

theorem isElement_eq_false_iff {n : Draft} : n.isElement = false ↔ n.Leaf := by
  cases n with
  | text content => exact iff_of_true rfl (leaf_text content)
  | split target pieces => exact iff_of_true rfl (leaf_split target pieces)
  | element tag attrs label content => exact iff_of_false (by simp [isElement]) fun h => h _ _ _ _ rfl

mutual
/-- A draft without labels and directives, and without classes that labels bring, whose lists have no
elements but items for children. -/
def Tidy : Draft → Prop
  | text _ | split _ _ => True
  | element tag attrs label children =>
    attrs.Undirected ∧ attrs.Unclassed ∧ label = none ∧
      ((ElementKind.ofTag? tag).any ElementKind.isList → children.all isItem) ∧ TidyAll children

def TidyAll : List Draft → Prop
  | [] => True
  | d :: rest => Tidy d ∧ TidyAll rest
end

mutual
theorem Tidy.plain {n : Draft} (h : n.Tidy) : n.Plain := by
  cases n with
  | text content => trivial
  | split target pieces => trivial
  | element tag attrs label children => exact ⟨h.1, h.2.2.1, TidyAll.plain h.2.2.2.2⟩

theorem TidyAll.plain {ns : List Draft} (h : TidyAll ns) : PlainAll ns := by
  cases ns with
  | nil => trivial
  | cons n rest => exact ⟨Tidy.plain h.1, TidyAll.plain h.2⟩
end

theorem all_isItem_ofNodes (ns : List Node) :
    (ofNodes ns).all isItem = ns.all fun c => c.tag?.all (· == "li") := by
  induction ns with
  | nil => rfl
  | cons n rest ih =>
    rw [ofNodes, List.all_cons, List.all_cons, ih]
    cases n <;> rfl

theorem all_isItem_markRefsAll (target : Option String) (ns : List Draft) :
    (markRefsAll target ns).all isItem = ns.all isItem := by
  induction ns with
  | nil => rfl
  | cons n rest ih =>
    rw [markRefsAll, List.all_cons, List.all_cons, ih]
    cases n with
    | text content =>
      cases target with
      | none => rfl
      | some target =>
        rw [markRefs, Option.elim_some, markText]
        split <;> rfl
    | split target pieces => rfl
    | element tag attrs label children => rfl

mutual
theorem tidy_ofNode (n : Node) (hd : n.Undirected) (hc : n.Unclassed) (hi : n.OnlyItems) :
    (ofNode n).Tidy := by
  cases n with
  | text content => trivial
  | element tag attrs children =>
    refine ⟨hd _ (List.mem_cons_self ..) attrs rfl, hc _ (List.mem_cons_self ..) attrs rfl, rfl,
      fun hlist => ?_, tidyAll_ofNodes children (fun m hm => hd m (List.mem_cons_of_mem _ hm))
        (fun m hm => hc m (List.mem_cons_of_mem _ hm)) fun m hm => hi m (List.mem_cons_of_mem _ hm)⟩
    rw [all_isItem_ofNodes]
    exact hi _ (List.mem_cons_self ..) hlist

theorem tidyAll_ofNodes (ns : List Node)
    (hd : ∀ m ∈ preorderAll ns, ∀ attrs ∈ m.attrs?, attrs.Undirected)
    (hc : ∀ m ∈ preorderAll ns, ∀ attrs ∈ m.attrs?, attrs.Unclassed)
    (hi : ∀ m ∈ preorderAll ns, m.isList → m.children.all fun c => c.tag?.all (· == "li")) :
    TidyAll (ofNodes ns) := by
  cases ns with
  | nil => trivial
  | cons n rest =>
    exact ⟨tidy_ofNode n (fun m hm => hd m (List.mem_append_left _ hm))
        (fun m hm => hc m (List.mem_append_left _ hm)) fun m hm => hi m (List.mem_append_left _ hm),
      tidyAll_ofNodes rest (fun m hm => hd m (List.mem_append_right _ hm))
        (fun m hm => hc m (List.mem_append_right _ hm)) fun m hm => hi m (List.mem_append_right _ hm)⟩
end

mutual
theorem Tidy.markRefs {n : Draft} (h : n.Tidy) (target : Option String) : (n.markRefs target).Tidy := by
  cases n with
  | text content =>
    cases target with
    | none => trivial
    | some target =>
      rw [Draft.markRefs, Option.elim_some, markText]
      split <;> trivial
  | split target pieces => trivial
  | element tag attrs label children =>
    obtain ⟨hd, hc, hlabel, hi, hchildren⟩ := h
    refine ⟨hd, hc, hlabel, fun hlist => ?_, TidyAll.markRefsAll hchildren _⟩
    rw [all_isItem_markRefsAll]
    exact hi hlist

theorem TidyAll.markRefsAll {ns : List Draft} (h : TidyAll ns) (target : Option String) :
    TidyAll (Draft.markRefsAll target ns) := by
  cases ns with
  | nil => trivial
  | cons n rest => exact ⟨Tidy.markRefs h.1 target, TidyAll.markRefsAll h.2 target⟩
end

end Draft

/-! ## The items of nodes in a row -/

namespace Node

def advanceAll (ns : List Node) (l : ListPlace) : ListPlace := ns.foldl (fun l n => n.advance l) l

theorem advance_fst (n : Node) (l : ListPlace) : (n.advance l).1 = l.1 := by
  rw [advance]
  split <;> rfl

theorem advanceAll_fst (ns : List Node) (l : ListPlace) : (advanceAll ns l).1 = l.1 := by
  induction ns generalizing l with
  | nil => rfl
  | cons n rest ih => exact (ih (n.advance l)).trans (advance_fst n l)

theorem itemsInAll_append (around : List ListPlace) (list : Option ListPlace) (xs ys : List Node) :
    itemsInAll around list (xs ++ ys) =
      itemsInAll around list xs ++ itemsInAll around (list.map (advanceAll xs)) ys := by
  induction xs generalizing list with
  | nil =>
    have : list.map (advanceAll []) = list := by cases list <;> rfl
    rw [this]
    rfl
  | cons n rest ih =>
    have : (list.map n.advance).map (advanceAll rest) = list.map (advanceAll (n :: rest)) := by
      cases list <;> rfl
    rw [List.cons_append, itemsInAll, ih, itemsInAll, List.append_assoc, this]

theorem itemsInAll_singleton (around : List ListPlace) (list : Option ListPlace) (n : Node) :
    itemsInAll around list [n] = itemsIn around (list.map n.advance) n := by
  rw [itemsInAll, itemsInAll, List.append_nil]

/-- Two places, of which nothing labels the second. -/
structure Alike (l l' : Option ListPlace) : Prop where
  isSome : l.isSome = l'.isSome
  bare : ∀ p ∈ l', p.1.styleClasses = []

theorem Alike.none : Alike .none .none := ⟨rfl, by simp⟩

theorem Alike.some (l : ListPlace) {l' : ListPlace} (h : l'.1.styleClasses = []) :
    Alike (.some l) (.some l') := ⟨rfl, by simpa using h⟩

theorem Alike.map {l l' : Option ListPlace} (h : Alike l l') {f g : ListPlace → ListPlace}
    (hg : ∀ p, (g p).1 = p.1) : Alike (l.map f) (l'.map g) := by
  refine ⟨by simpa using h.isSome, fun p hp => ?_⟩
  obtain ⟨q, hq, rfl⟩ := Option.map_eq_some_iff.1 hp
  rw [hg]
  exact h.bare q hq

theorem Alike.cases {l l' : Option ListPlace} (h : Alike l l') :
    l = .none ∧ l' = .none ∨
      ∃ p p', l = .some p ∧ l' = .some p' ∧ p'.1.styleClasses = [] := by
  cases l with
  | none =>
    cases l' with
    | none => exact Or.inl ⟨rfl, rfl⟩
    | some p' => cases h.isSome
  | some p =>
    cases l' with
    | none => cases h.isSome
    | some p' => exact Or.inr ⟨p, p', rfl, rfl, h.bare p' rfl⟩

end Node

theorem Stylesheet.drawn?_bare (sheet : Stylesheet) {i : ListItem} {l : ListPlace} {e : List ListPlace}
    (hi : i.lists = l :: e) (hl : l.1.styleClasses = []) : sheet.drawn? i = none := by
  rw [drawn?, hi]
  simp [hl]

/-! ## The items of drafts -/

namespace Draft
open Node
variable {table table' : RefTable} {around : List ListPlace} {list : Option ListPlace}

theorem itemsIn_span (attrs : Attrs) (content : List Node) (hcontent : ∀ n ∈ content, ∃ s, n = .text s) :
    itemsIn around list (.element "span" attrs content) = [] := by
  have hlist : (ElementKind.ofTag? "span").any ElementKind.isList = false := by decide
  rw [itemsIn, if_neg (by decide), hlist]
  simp only [Bool.false_eq_true, if_false]
  induction content with
  | nil => rfl
  | cons n rest ih =>
    obtain ⟨s, rfl⟩ := hcontent n (List.mem_cons_self ..)
    rw [itemsInAll, itemsIn]
    exact ih fun m hm => hcontent m (List.mem_cons_of_mem _ hm)

theorem itemsIn_pieceNode (target : String) (p : Piece) :
    itemsIn around list (pieceNode plainText table target p) = [] := by
  cases p with
  | literal s => rfl
  | marker s selector =>
    rw [pieceNode, refSpan]
    refine itemsIn_span _ _ fun n hn => ?_
    cases hsel : selector.bind fun sel => table.label? ⟨target, sel⟩ with
    | none =>
      rw [hsel] at hn
      exact ⟨_, List.mem_singleton.1 hn⟩
    | some label =>
      rw [hsel] at hn
      exact ⟨_, List.mem_singleton.1 hn⟩

theorem items_split (target : String) (pieces : List Piece) :
    itemsInAll around list (toNodes plainText table (split target pieces)) = [] := by
  rw [toNodes]
  induction pieces generalizing list with
  | nil => rfl
  | cons p rest ih => rw [List.map_cons, itemsInAll, itemsIn_pieceNode, ih, List.append_nil]

theorem items_leaf {n : Draft} (hn : n.Leaf) : itemsInAll around list (toNodes plainText table n) = [] := by
  cases n with
  | text content => rfl
  | split target pieces => exact items_split target pieces
  | element => exact (hn _ _ _ _ rfl).elim

theorem items_label (label : Option String) (ns : List Node) :
    itemsInAll around list ((label.map (labelSpan plainText)).toList ++ ns) =
      itemsInAll around list ns := by
  cases label with
  | none => rfl
  | some label =>
    have hadvance : list.map (advance (labelSpan plainText label)) = list := by
      cases list with
      | none => rfl
      | some l =>
        have : (labelSpan plainText label).isCounted = false := by simp [labelSpan, isCounted]
        rw [Option.map_some, advance, this]
        rfl
    rw [Option.map_some, Option.toList_some, List.singleton_append, itemsInAll, hadvance, labelSpan,
      itemsIn_span _ _ (by simp [plainText]), List.nil_append]

/-- The items of an item: itself, if it is one of a list, and those in its content. -/
theorem items_li (attrs : Attrs) (label : Option String) (children : List Draft) :
    itemsInAll around list (toNodes plainText table (element "li" attrs label children)) =
      ((list.map (advance (.element "li" attrs []))).map fun l =>
        ListItem.mk (l :: around) attrs ((label.map (labelSpan plainText)).toList ++
          toNodesAll plainText table children)).toList ++
      itemsInAll ((list.map (advance (.element "li" attrs []))).toList ++ around) none
        (toNodesAll plainText table children) := by
  rw [toNodes, itemsInAll_singleton, itemsIn, if_pos rfl, items_label]
  rfl

/-- The items of any other element. -/
theorem items_inner {tag : String} (h : tag ≠ "li") (attrs : Attrs) (label : Option String)
    (children : List Draft) :
    itemsInAll around list (toNodes plainText table (element tag attrs label children)) =
      itemsInAll around (if (ElementKind.ofTag? tag).any ElementKind.isList then some (attrs, 0)
        else none) (toNodesAll plainText table children) := by
  rw [toNodes, itemsInAll_singleton, itemsIn, if_neg h, items_label]

theorem items_inert {ns : List Draft} (h : ns.any isElement = false) :
    itemsInAll around list (toNodesAll plainText table ns) = [] := by
  induction ns generalizing list with
  | nil => rfl
  | cons n rest ih =>
    rw [List.any_cons, Bool.or_eq_false_iff] at h
    rw [toNodesAll, itemsInAll_append, ih h.2, List.append_nil]
    exact items_leaf (isElement_eq_false_iff.1 h.1)

/-! ## Where nothing has been labelled -/

/-- No label: an element that is not like one. -/
def Unspanned : Draft → Prop
  | element tag attrs _ _ => tag = "span" → attrs.hasClass Css.labelClass = false
  | _ => True

theorem Tidy.unspanned {n : Draft} (h : n.Tidy) : n.Unspanned := by
  cases n with
  | text content => trivial
  | split target pieces => trivial
  | element tag attrs label children =>
    exact fun _ => Attrs.not_hasClass_of_unclassed h.2.1 (by decide)

theorem TidyAll.of_mem {ns : List Draft} (h : TidyAll ns) {n : Draft} (hn : n ∈ ns) : n.Tidy := by
  induction ns with
  | nil => cases hn
  | cons m rest ih =>
    rcases List.mem_cons.1 hn with rfl | hn
    · exact h.1
    · exact ih h.2 hn

theorem labelOf_pieces (target : String) (p : Piece) (ns : List Node) :
    labelOf (pieceNode plainText table target p :: ns) = none := by
  cases p with
  | literal s => rfl
  | marker s selector =>
    have hclass : Attrs.hasClass [("class", Css.refClass)] Css.labelClass = false := by decide
    rw [pieceNode, refSpan]
    cases selector.bind fun sel => table.label? ⟨target, sel⟩ <;> simp [labelOf, plainText, hclass]

theorem labelOf_toNodesAll {ns : List Draft} (h : ∀ n ∈ ns, n.Unspanned) :
    labelOf (toNodesAll plainText table ns) = none := by
  induction ns with
  | nil => rfl
  | cons n rest ih =>
    have hrest := ih fun m hm => h m (List.mem_cons_of_mem _ hm)
    cases n with
    | text content => rfl
    | split target pieces =>
      rw [toNodesAll, toNodes]
      cases pieces with
      | nil => exact hrest
      | cons p pieces =>
        rw [List.map_cons, List.cons_append]
        exact labelOf_pieces target p _
    | element tag attrs label children =>
      have hspan : tag = "span" → attrs.hasClass Css.labelClass = false := h _ (List.mem_cons_self ..)
      rw [toNodesAll, toNodes, List.singleton_append]
      unfold labelOf
      split
      · rename_i heq
        obtain ⟨heq, -⟩ := List.cons.inj heq
        obtain ⟨rfl, rfl, -⟩ := Node.element.inj heq
        rw [if_neg]
        rintro ⟨rfl, hclass⟩
        rw [hspan rfl] at hclass
        cases hclass
      · rfl

/-- An item of a list that no series labels shows no label, and what is in it shows what it shows. -/
theorem shows_li {sheet : Stylesheet} {a e : List ListPlace} {l l' : Option ListPlace} (hl : Alike l l')
    (attrs : Attrs) {children children' : List Draft}
    (hlabel : labelOf (toNodesAll plainText table children) = none)
    (hnone : (itemsInAll a none (toNodesAll plainText table children)).map ListItem.text? =
      (itemsInAll e none (toNodesAll plainText table' children')).map sheet.drawn?)
    (hsome : ∀ p p' : ListPlace, p'.1.styleClasses = [] →
      (itemsInAll (p :: a) none (toNodesAll plainText table children)).map ListItem.text? =
        (itemsInAll (p' :: e) none (toNodesAll plainText table' children')).map sheet.drawn?) :
    (itemsInAll a l (toNodes plainText table (element "li" attrs none children))).map ListItem.text? =
      (itemsInAll e l' (toNodes plainText table' (element "li" attrs none children'))).map sheet.drawn? := by
  rw [items_li, items_li]
  have hplace := hl.map (f := advance (.element "li" attrs [])) (advance_fst (.element "li" attrs []))
  rcases hplace.cases with ⟨h, h'⟩ | ⟨p, p', h, h', hp⟩
  · rw [h, h']
    exact hnone
  · rw [h, h']
    simp only [Option.map_some, Option.toList_some, List.singleton_append, List.map_cons]
    rw [sheet.drawn?_bare rfl hp, hsome p p' hp, ListItem.text?]
    exact congrArg (· :: _) hlabel

mutual
/-- Where nothing has been labelled there is no label, as text or by counters. -/
theorem untouched (sheet : Stylesheet) (n : Draft) (hn : n.Tidy) (a e : List ListPlace)
    {l l' : Option ListPlace} (hl : Alike l l') :
    (itemsInAll a l (toNodes plainText table n)).map ListItem.text? =
      (itemsInAll e l' (toNodes plainText table' n)).map sheet.drawn? := by
  cases n with
  | text content => rfl
  | split target pieces => rw [items_split, items_split]; rfl
  | element tag attrs label children =>
    obtain ⟨-, hclass, rfl, -, hchildren⟩ := hn
    by_cases hli : tag = "li"
    · subst hli
      exact shows_li hl attrs (labelOf_toNodesAll fun n hn => (hchildren.of_mem hn).unspanned)
        (untouchedAll sheet children hchildren _ _ .none)
        fun _ _ _ => untouchedAll sheet children hchildren _ _ .none
    · rw [items_inner hli, items_inner hli]
      refine untouchedAll sheet children hchildren _ _ ?_
      split
      · exact .some _ (Attrs.styleClasses_of_unclassed hclass)
      · exact .none

theorem untouchedAll (sheet : Stylesheet) (ns : List Draft) (hns : TidyAll ns) (a e : List ListPlace)
    {l l' : Option ListPlace} (hl : Alike l l') :
    (itemsInAll a l (toNodesAll plainText table ns)).map ListItem.text? =
      (itemsInAll e l' (toNodesAll plainText table' ns)).map sheet.drawn? := by
  cases ns with
  | nil => rfl
  | cons n rest =>
    rw [toNodesAll, toNodesAll, itemsInAll_append, itemsInAll_append, List.map_append, List.map_append,
      untouched sheet n hns.1 a e hl, untouchedAll sheet rest hns.2 a e (hl.map (advanceAll_fst _))]
end

end Draft
end Rubric
