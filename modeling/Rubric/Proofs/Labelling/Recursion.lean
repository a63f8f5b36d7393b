import Rubric.Proofs.Labelling.Equations

/-!
# The recursion of a walk

* `Draft.WalkCases` : what holds of a walk over a node, over nodes in a row, and over the children of a list
  with a series, as far as the walk passes it on from the parts to the whole;
* `WalkCases.walk`, `walkAll`, `walkItems` : then it holds of all walks.

Every theorem about all walks is proved by such cases. The induction itself is made here once.
-/

namespace Rubric.Draft
open Walk

/-- What a walk passes on from the parts to the whole: `node` of a walk over a node, `nodes` of one over
nodes in a row, `items` of one over the children of a list with a series. -/
structure WalkCases (d : Defaults) (node : Draft → State → Prop) (nodes : List Draft → State → Prop)
    (items : ElementKind → List Draft → ListState → State → Prop) : Prop where
  stopped (n : Draft) (s : State) (h : s.isStopped) : node n s
  leaf (n : Draft) (s : State) (h : ¬s.isStopped) (hn : n.Leaf) : node n s
  heading (level : HeadingLevel) (tag : String) (attrs : Attrs) (label : Option String)
    (children : List Draft) (s : State) (h : ¬s.isStopped)
    (hk : ElementKind.ofTag? tag = some (.heading level)) : node (element tag attrs label children) s
  other (tag : String) (attrs : Attrs) (label : Option String) (children : List Draft) (s : State)
    (h : ¬s.isStopped) (hk : ElementKind.ofTag? tag = none)
    (hchildren : nodes children (enterElement tag attrs s).state) :
    node (element tag attrs label children) s
  bareList (kind : ElementKind) (tag : String) (attrs attrs' : Attrs) (label : Option String)
    (children : List Draft) (s s' : State) (h : ¬s.isStopped) (hk : ElementKind.ofTag? tag = some kind)
    (hlist : kind.isList) (he : enterList d kind tag attrs s = (attrs', none, s'))
    (hchildren : nodes children s') : node (element tag attrs label children) s
  list (kind : ElementKind) (tag : String) (attrs attrs' : Attrs) (label : Option String)
    (children : List Draft) (l : ListState) (s s' : State) (h : ¬s.isStopped)
    (hk : ElementKind.ofTag? tag = some kind) (hlist : kind.isList)
    (he : enterList d kind tag attrs s = (attrs', some l, s')) (hchildren : items kind children l s') :
    node (element tag attrs label children) s
  nil (s : State) : nodes [] s
  cons (n : Draft) (rest : List Draft) (s : State) (hn : node n s) (hrest : nodes rest (walk d n s).2) :
    nodes (n :: rest) s
  itemsStopped (kind : ElementKind) (ns : List Draft) (l : ListState) (s : State) (h : s.isStopped) :
    items kind ns l s
  itemsNil (kind : ElementKind) (l : ListState) (s : State) (h : ¬s.isStopped) : items kind [] l s
  itemsLeaf (kind : ElementKind) (n : Draft) (rest : List Draft) (l : ListState) (s : State)
    (h : ¬s.isStopped) (hn : n.Leaf) (hrest : items kind rest l s) : items kind (n :: rest) l s
  item (kind : ElementKind) (attrs : Attrs) (label : Option String) (content rest : List Draft)
    (l : ListState) (s : State) (h : ¬s.isStopped)
    (hcontent : nodes content (enterItem d kind l "li" attrs s).1.state)
    (hrest : items kind rest (enterItem d kind l "li" attrs s).2
      (leaveItem (enterItem d kind l "li" attrs s).2
        (walkAll d content (enterItem d kind l "li" attrs s).1.state).2)) :
    items kind (element "li" attrs label content :: rest) l s
  itemsOther (kind : ElementKind) (tag : String) (attrs : Attrs) (label : Option String)
    (content rest : List Draft) (l : ListState) (s : State) (h : ¬s.isStopped) (hli : tag ≠ "li")
    (hn : node (element tag attrs label content) s)
    (hrest : items kind rest l (walk d (element tag attrs label content) s).2) :
    items kind (element tag attrs label content :: rest) l s

namespace WalkCases
variable {d : Defaults} {node : Draft → State → Prop} {nodes : List Draft → State → Prop}
  {items : ElementKind → List Draft → ListState → State → Prop}

mutual
/-- It holds of a walk over a node. -/
theorem walk (h : WalkCases d node nodes items) (n : Draft) (s : State) : node n s := by
  by_cases hs : s.isStopped
  · exact h.stopped n s hs
  cases n with
  | text content => exact h.leaf _ s hs (leaf_text content)
  | split target pieces => exact h.leaf _ s hs (leaf_split target pieces)
  | element tag attrs label children =>
    cases hk : ElementKind.ofTag? tag with
    | none => exact h.other tag attrs label children s hs hk (walkAll h children _)
    | some kind =>
      by_cases hlist : kind.isList
      · rcases he : enterList d kind tag attrs s with ⟨attrs', _ | l, s'⟩
        · exact h.bareList kind tag attrs attrs' label children s s' hs hk hlist he (walkAll h children s')
        · exact h.list kind tag attrs attrs' label children l s s' hs hk hlist he
            (walkItems h kind children l s')
      · obtain ⟨level, rfl⟩ := ElementKind.exists_heading hlist
        exact h.heading level tag attrs label children s hs hk

/-- It holds of a walk over nodes in a row. -/
theorem walkAll (h : WalkCases d node nodes items) (ns : List Draft) (s : State) : nodes ns s := by
  cases ns with
  | nil => exact h.nil s
  | cons n rest => exact h.cons n rest s (walk h n s) (walkAll h rest _)

/-- It holds of a walk over the children of a list. -/
theorem walkItems (h : WalkCases d node nodes items) (kind : ElementKind) (ns : List Draft) (l : ListState)
    (s : State) : items kind ns l s := by
  by_cases hs : s.isStopped
  · exact h.itemsStopped kind ns l s hs
  cases ns with
  | nil => exact h.itemsNil kind l s hs
  | cons n rest =>
    cases n with
    | text content => exact h.itemsLeaf kind _ rest l s hs (leaf_text content) (walkItems h kind rest l s)
    | split target pieces =>
      exact h.itemsLeaf kind _ rest l s hs (leaf_split target pieces) (walkItems h kind rest l s)
    | element tag attrs label content =>
      by_cases hli : tag = "li"
      · subst hli
        exact h.item kind attrs label content rest l s hs (walkAll h content _) (walkItems h kind rest _ _)
      · exact h.itemsOther kind tag attrs label content rest l s hs hli
          (walk h (element tag attrs label content) s) (walkItems h kind rest l _)
end

end WalkCases
end Rubric.Draft
