import Rubric.Proofs.Stylesheet.Tidy

/-!
# Content without lists and headings

* `Node.Inert` : no list and no heading; `Draft.Inert` : the same of a draft without labels;
* `State.Same s s'` : states that differ only in warnings and references;
* `Draft.walk_inert` : a walk takes off directives, and changes nothing else;
* `InertAll.items`, `labelOf` : there are no items and no labels in such content.
-/

namespace Rubric

def Node.Inert (n : Node) : Prop := ∀ m ∈ n.preorder, ∀ tag ∈ m.tag?, ElementKind.ofTag? tag = none

instance (n : Node) : Decidable n.Inert := inferInstanceAs (Decidable (∀ _ ∈ _, ∀ _ ∈ _, _))

/-! ## Directives and classes -/

theorem Directive.get?_take {d : Directive} {name : String} (h : name ≠ d.name)
    (h' : name ≠ d.longName) (tag : String) (attrs : Attrs) :
    (d.take tag attrs).attrs.get? name = attrs.get? name := by
  rw [take, Attrs.get?_erase_of_ne _ h', Attrs.get?_erase_of_ne _ h]

@[simp] theorem Directive.classes_take (d : Directive) (tag : String) (attrs : Attrs) :
    (d.take tag attrs).attrs.classes = attrs.classes := by
  rw [Attrs.classes, get?_take (by cases d <;> decide) (by cases d <;> decide), Attrs.classes]

@[simp] theorem Directive.classes_discard (d : Directive) (tag : String) (attrs : Attrs) :
    (d.discard tag attrs).1.classes = attrs.classes := d.classes_take tag attrs

theorem Walk.classes_enterElement (tag : String) (attrs : Attrs) (s : State) :
    (enterElement tag attrs s).attrs.classes = attrs.classes := by
  rw [enterElement]
  by_cases htag : tag = "li"
  · simp [htag]
  · simp [htag, rejectDirectives]

/-! ## Walks -/

/-- The same state, apart from warnings and references. -/
structure State.Same (s s' : State) : Prop where
  scope : s'.scope = s.scope
  context : s'.context = s.context
  failure : s'.failure = s.failure
  stylesheet : s'.stylesheet = s.stylesheet

theorem State.Same.refl (s : State) : Same s s := ⟨rfl, rfl, rfl, rfl⟩

theorem State.Same.trans {s s' s'' : State} (h : Same s s') (h' : Same s' s'') : Same s s'' :=
  ⟨h'.scope.trans h.scope, h'.context.trans h.context, h'.failure.trans h.failure,
    h'.stylesheet.trans h.stylesheet⟩

theorem Walk.same_enterElement (tag : String) (attrs : Attrs) (s : State) :
    State.Same s (enterElement tag attrs s).state := by
  refine ⟨?_, ?_, ?_, ?_⟩ <;> simp [enterElement]

namespace Draft
open Node State Walk

mutual
/-- No list, no heading and no label, and none of the classes of labels. -/
def Inert : Draft → Prop
  | text _ | split _ _ => True
  | element tag attrs label children =>
    ElementKind.ofTag? tag = none ∧ attrs.Unclassed ∧ label = none ∧ InertAll children

def InertAll : List Draft → Prop
  | [] => True
  | n :: rest => Inert n ∧ InertAll rest
end

mutual
theorem inert_ofNode (n : Node) (h : n.Inert) (hc : n.Unclassed) : (ofNode n).Inert := by
  cases n with
  | text content => trivial
  | element tag attrs children =>
    exact ⟨h _ (List.mem_cons_self ..) tag rfl, hc _ (List.mem_cons_self ..) attrs rfl, rfl,
      inertAll_ofNodes children (fun m hm => h m (List.mem_cons_of_mem _ hm))
        fun m hm => hc m (List.mem_cons_of_mem _ hm)⟩

theorem inertAll_ofNodes (ns : List Node)
    (h : ∀ m ∈ preorderAll ns, ∀ tag ∈ m.tag?, ElementKind.ofTag? tag = none)
    (hc : ∀ m ∈ preorderAll ns, ∀ attrs ∈ m.attrs?, attrs.Unclassed) : InertAll (ofNodes ns) := by
  cases ns with
  | nil => trivial
  | cons n rest =>
    exact ⟨inert_ofNode n (fun m hm => h m (List.mem_append_left _ hm))
        fun m hm => hc m (List.mem_append_left _ hm),
      inertAll_ofNodes rest (fun m hm => h m (List.mem_append_right _ hm))
        fun m hm => hc m (List.mem_append_right _ hm)⟩
end

mutual
theorem Inert.markRefs {n : Draft} (h : n.Inert) (target : Option String) : (n.markRefs target).Inert := by
  cases n with
  | text content =>
    cases target with
    | none => trivial
    | some target =>
      rw [Draft.markRefs, Option.elim_some, markText]
      split <;> trivial
  | split target pieces => trivial
  | element tag attrs label children =>
    exact ⟨h.1, h.2.1, h.2.2.1, InertAll.markRefsAll h.2.2.2 _⟩

theorem InertAll.markRefsAll {ns : List Draft} (h : InertAll ns) (target : Option String) :
    InertAll (Draft.markRefsAll target ns) := by
  cases ns with
  | nil => trivial
  | cons n rest => exact ⟨Inert.markRefs h.1 target, InertAll.markRefsAll h.2 target⟩
end

variable (d : Defaults)

mutual
/-- A walk takes the directives off content without lists and headings. -/
theorem walk_inert (n : Draft) (hn : n.Inert) (s : State) :
    (walk d n s).1.Inert ∧ State.Same s (walk d n s).2 := by
  by_cases hs : s.isStopped
  · rw [walk_stopped hs]
    exact ⟨hn, .refl s⟩
  cases n with
  | text content => exact ⟨trivial, .refl s⟩
  | split target pieces => exact ⟨trivial, .refl s⟩
  | element tag attrs label children =>
    obtain ⟨hk, hclass, hlabel, hchildren⟩ := hn
    rw [walk_other hs hk]
    obtain ⟨hinert, hsame⟩ := walkAll_inert children hchildren (enterElement tag attrs s).state
    refine ⟨⟨hk, ?_, hlabel, hinert⟩, (same_enterElement tag attrs s).trans hsame⟩
    rw [Attrs.Unclassed, classes_enterElement]
    exact hclass

theorem walkAll_inert (ns : List Draft) (hns : InertAll ns) (s : State) :
    InertAll (walkAll d ns s).1 ∧ State.Same s (walkAll d ns s).2 := by
  cases ns with
  | nil => exact ⟨trivial, .refl s⟩
  | cons n rest =>
    obtain ⟨hfirst, hsame⟩ := walk_inert n hns.1 s
    obtain ⟨hrest, hsame'⟩ := walkAll_inert rest hns.2 (walk d n s).2
    rw [walkAll_cons]
    exact ⟨⟨hfirst, hrest⟩, hsame.trans hsame'⟩
end

/-! ## Items and labels -/

variable {table : RefTable} {around : List ListPlace}

mutual
theorem Inert.items {n : Draft} (h : n.Inert) :
    itemsInAll around none (toNodes plainText table n) = [] := by
  cases n with
  | text content => rfl
  | split target pieces => exact items_split target pieces
  | element tag attrs label children =>
    obtain ⟨hk, -, -, hchildren⟩ := h
    by_cases hli : tag = "li"
    · subst hli
      rw [items_li]
      exact InertAll.items hchildren
    · rw [items_inner hli, hk]
      exact InertAll.items hchildren

/-- There are no items of lists in content without lists. -/
theorem InertAll.items {ns : List Draft} (h : InertAll ns) :
    itemsInAll around none (toNodesAll plainText table ns) = [] := by
  cases ns with
  | nil => rfl
  | cons n rest =>
    rw [toNodesAll, itemsInAll_append, Inert.items h.1, List.nil_append]
    exact InertAll.items h.2
end

theorem Inert.unspanned {n : Draft} (h : n.Inert) : n.Unspanned := by
  cases n with
  | text content => trivial
  | split target pieces => trivial
  | element tag attrs label children =>
    exact fun _ => Attrs.not_hasClass_of_unclassed h.2.1 (by decide)

theorem InertAll.of_mem {ns : List Draft} (h : InertAll ns) {n : Draft} (hn : n ∈ ns) : n.Inert := by
  induction ns with
  | nil => cases hn
  | cons m rest ih =>
    rcases List.mem_cons.1 hn with rfl | hn
    · exact h.1
    · exact ih h.2 hn

/-- There is no label in front of such content. -/
theorem InertAll.labelOf {ns : List Draft} (h : InertAll ns) :
    Node.labelOf (toNodesAll plainText table ns) = none :=
  labelOf_toNodesAll fun _ hn => (h.of_mem hn).unspanned

end Draft
end Rubric
