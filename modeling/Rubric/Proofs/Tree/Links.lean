import Mathlib.Data.List.InsertIdx
import Rubric.Tree.Document

/-!
# Links between nodes

* `Document.Linked` : the two ends of every link agree: a node is among the children of its parent, once,
  and of no other node;
* `parent?_detach`, `children_detach`, `parent?_link`, `children_link` : the links after a change;
* `Document.Operation` : the operations that make nodes and move them; `Operation.run`, `Document.perform` :
  one of them, and one after the other;
* `Linked.run`, `Linked.perform` : all of them keep links together, whatever handles and places they
  are given.
-/

namespace Rubric
namespace Document

/-- The two ends of every link agree. -/
structure Linked (d : Document) : Prop where
  mem_children : ∀ p c, c ∈ d.children p ↔ d.parent? c = some p
  nodup : ∀ p, (d.children p).Nodup

variable {d : Document} {m n p : NodeId}

/-! ## Nodes of the store -/

theorem get?_eq_none : d.get? n = none ↔ d.size ≤ n := Array.getElem?_eq_none_iff

theorem get?_modify (f : Entry → Entry) :
    (d.modify n f).get? m = if n = m then (d.get? m).map f else d.get? m := by
  simp only [get?, modify, Array.getElem?_modify]

@[simp] theorem size_modify (f : Entry → Entry) : (d.modify n f).size = d.size := by
  simp [size, modify]

theorem parent?_of_size_le (h : d.size ≤ n) : d.parent? n = none := by
  rw [parent?, get?_eq_none.2 h, Option.bind_none]

theorem children_of_size_le (h : d.size ≤ n) : d.children n = [] := by
  rw [children, get?_eq_none.2 h, Option.elim_none]

theorem parent?_modify {f : Entry → Entry} (hf : ∀ e, (f e).parent = e.parent) :
    (d.modify n f).parent? m = d.parent? m := by
  rw [parent?, get?_modify, parent?]
  split
  · cases d.get? m with
    | none => rfl
    | some e => exact hf e
  · rfl

theorem children_modify {f : Entry → Entry} (hf : ∀ e, (f e).children = e.children) :
    (d.modify n f).children m = d.children m := by
  rw [children, get?_modify, children]
  split
  · cases d.get? m with
    | none => rfl
    | some e => exact hf e
  · rfl

/-! ## Links after a change -/

@[simp] theorem parent?_create (kind : NodeKind) : (d.create kind).2.parent? m = d.parent? m := by
  simp only [parent?, create, get?, Array.getElem?_push]
  split
  · rename_i h
    rw [h, Array.getElem?_eq_none (Nat.le_refl _)]
    rfl
  · rfl

@[simp] theorem children_create (kind : NodeKind) : (d.create kind).2.children m = d.children m := by
  simp only [children, create, get?, Array.getElem?_push]
  split
  · rename_i h
    rw [h, Array.getElem?_eq_none (Nat.le_refl _)]
    rfl
  · rfl

theorem parent?_detach : (d.detach n).parent? m = if m = n then none else d.parent? m := by
  rw [detach]
  split
  · rename_i h
    split
    · rename_i hm
      rw [hm, h]
    · rfl
  · rw [parent?_modify (by simp), parent?, get?_modify, parent?]
    by_cases hm : n = m
    · rw [if_pos hm, if_pos hm.symm]
      cases d.get? m <;> rfl
    · rw [if_neg hm, if_neg (Ne.symm hm)]

theorem children_detach (h : d.Linked) : (d.detach n).children m = (d.children m).filter (· != n) := by
  rw [detach]
  split
  · rename_i hn
    refine (List.filter_eq_self.2 fun c hc => ?_).symm
    have hparent := (h.mem_children m c).1 hc
    have hne : c ≠ n := fun heq => by
      rw [heq, hn] at hparent
      cases hparent
    simpa using hne
  · rename_i q hn
    rw [children, get?_modify]
    have hsame := children_modify (d := d) (n := n) (m := m)
      (f := fun e => { e with parent := none }) fun _ => rfl
    by_cases hm : q = m
    · rw [if_pos hm, ← hsame, children]
      cases (d.modify n fun e => { e with parent := none }).get? m <;> rfl
    · rw [if_neg hm]
      refine hsame.trans (List.filter_eq_self.2 fun c hc => ?_).symm
      have hparent := (h.mem_children m c).1 hc
      have hne : c ≠ n := fun heq => by
        rw [heq, hn] at hparent
        exact hm (Option.some.inj hparent)
      simpa using hne

theorem link_of_not (index : Nat) (h : ¬(p < d.size ∧ n < d.size)) : d.link p index n = d := if_neg h

theorem parent?_link (index : Nat) (hp : p < d.size) (hn : n < d.size) :
    (d.link p index n).parent? m = if m = n then some p else d.parent? m := by
  rw [link, if_pos ⟨hp, hn⟩, parent?, get?_modify]
  have hsame := parent?_modify (d := d) (n := p) (m := m)
    (f := fun e => { e with children := e.children.insertIdx (min index e.children.length) n }) fun _ => rfl
  by_cases hm : n = m
  · rw [if_pos hm, if_pos hm.symm]
    subst hm
    cases he : (d.modify p fun e =>
      { e with children := e.children.insertIdx (min index e.children.length) n }).get? n with
    | none =>
      rw [get?_eq_none, size_modify] at he
      exact absurd hn (Nat.not_lt.2 he)
    | some e => rfl
  · rw [if_neg hm, if_neg (Ne.symm hm)]
    exact hsame

theorem children_link (index : Nat) (hp : p < d.size) (hn : n < d.size) :
    (d.link p index n).children m =
      if m = p then (d.children p).insertIdx (min index (d.children p).length) n else d.children m := by
  rw [link, if_pos ⟨hp, hn⟩, children_modify (by simp), children, get?_modify]
  by_cases hm : p = m
  · rw [if_pos hm, if_pos hm.symm]
    subst hm
    rw [children]
    cases he : d.get? p with
    | none => exact absurd hp (Nat.not_lt.2 (get?_eq_none.1 he))
    | some e => rfl
  · rw [if_neg hm, if_neg (Ne.symm hm), children]

/-! ## Operations keep links together -/

namespace Linked

theorem congr {d' : Document} (h : d.Linked) (hparent : ∀ c, d'.parent? c = d.parent? c)
    (hchildren : ∀ p, d'.children p = d.children p) : d'.Linked where
  mem_children p c := by rw [hparent, hchildren, h.mem_children]
  nodup p := by rw [hchildren]; exact h.nodup p

theorem empty : Document.empty.Linked := by
  have hparent : ∀ c, Document.empty.parent? c = none := fun c => by
    cases c with
    | zero => rfl
    | succ c => exact parent?_of_size_le (Nat.le_add_left 1 c)
  have hchildren : ∀ p, Document.empty.children p = [] := fun p => by
    cases p with
    | zero => rfl
    | succ p => exact children_of_size_le (Nat.le_add_left 1 p)
  exact ⟨fun p c => by simp [hparent, hchildren], fun p => by simp [hchildren]⟩

theorem modify {f : Entry → Entry} (h : d.Linked) (hparent : ∀ e, (f e).parent = e.parent)
    (hchildren : ∀ e, (f e).children = e.children) : (d.modify n f).Linked :=
  h.congr (fun _ => parent?_modify hparent) fun _ => children_modify hchildren

theorem create (h : d.Linked) (kind : NodeKind) : (d.create kind).2.Linked :=
  h.congr (fun _ => parent?_create kind) fun _ => children_create kind

theorem detach (h : d.Linked) (n : NodeId) : (d.detach n).Linked where
  mem_children p c := by
    rw [children_detach h, parent?_detach, List.mem_filter, h.mem_children]
    by_cases hc : c = n <;> simp [hc]
  nodup p := by
    rw [children_detach h]
    exact (h.nodup p).filter _

theorem link (h : d.Linked) (p : NodeId) (index : Nat) (hn : d.parent? n = none) :
    (d.link p index n).Linked := by
  by_cases hsize : p < d.size ∧ n < d.size
  · obtain ⟨hp, hsize⟩ := hsize
    have hle : min index (d.children p).length ≤ (d.children p).length := Nat.min_le_right ..
    have hnot : ∀ q, n ∉ d.children q := fun q hq => by
      rw [h.mem_children, hn] at hq
      cases hq
    refine ⟨fun q c => ?_, fun q => ?_⟩
    · rw [children_link index hp hsize, parent?_link index hp hsize]
      by_cases hq : q = p
      · rw [if_pos hq, List.mem_insertIdx hle, h.mem_children, hq]
        by_cases hc : c = n <;> simp [hc]
      · rw [if_neg hq]
        by_cases hc : c = n
        · rw [if_pos hc, hc, Option.some.injEq]
          exact iff_of_false (hnot q) (Ne.symm hq)
        · rw [if_neg hc, h.mem_children]
    · rw [children_link index hp hsize]
      split
      · exact (List.perm_insertIdx n _ hle).nodup_iff.2 (List.nodup_cons.2 ⟨hnot p, h.nodup p⟩)
      · exact h.nodup q
  · rw [link_of_not index hsize]
    exact h

theorem insertChild (h : d.Linked) (p : NodeId) (index : Nat) (n : NodeId) :
    (d.insertChild p index n).Linked :=
  (h.detach n).link p index (by rw [parent?_detach, if_pos rfl])

theorem appendChild (h : d.Linked) (p n : NodeId) : (d.appendChild p n).Linked := h.insertChild p _ n

theorem appendElement (h : d.Linked) (p : NodeId) (tag : String) : (d.appendElement p tag).2.Linked :=
  (h.create _).appendChild p _

theorem appendText (h : d.Linked) (p : NodeId) (s : String) : (d.appendText p s).2.Linked := by
  rw [Document.appendText]
  split
  · split
    · exact h.modify (fun _ => rfl) fun _ => rfl
    · exact (h.create _).appendChild p _
  · exact (h.create _).appendChild p _

theorem insertAll (h : d.Linked) (p : NodeId) (index : Nat) (ns : List NodeId) :
    (d.insertAll p index ns).Linked := by
  induction ns generalizing d index with
  | nil => exact h
  | cons n rest ih => exact ih (h.insertChild p index n) (index + 1)

theorem replaceWith (h : d.Linked) (n : NodeId) (ns : List NodeId) : (d.replaceWith n ns).Linked := by
  rw [Document.replaceWith]
  split
  · exact (h.detach n).insertAll _ _ ns
  · exact h

theorem detachAll (h : d.Linked) (ns : List NodeId) : (ns.foldl Document.detach d).Linked := by
  induction ns generalizing d with
  | nil => exact h
  | cons n rest ih => exact ih (h.detach n)

theorem setText (h : d.Linked) (n : NodeId) (s : String) : (d.setText n s).Linked := by
  rw [Document.setText]
  split
  · exact h.modify (fun _ => rfl) fun _ => rfl
  · exact ((h.detachAll _).create _).appendChild n _

theorem modifyAttrs (h : d.Linked) (n : NodeId) (f : Attrs → Attrs) : (d.modifyAttrs n f).Linked := by
  refine h.modify (fun e => ?_) fun e => ?_ <;> cases e.kind <;> rfl

theorem index?_isSome (h : d.Linked) (n : NodeId) : (d.index? n).isSome ↔ (d.parent? n).isSome := by
  rw [index?]
  cases hp : d.parent? n with
  | none => rfl
  | some p =>
    simp only [Option.bind_some, Option.isSome_some, iff_true, List.isSome_idxOf?]
    exact (h.mem_children p n).2 hp

end Linked

/-! ## Sequences of operations -/

/-- The operations on a document. Those that make a node give it the next free handle. -/
inductive Operation where
  | create (kind : NodeKind)
  | appendElement (p : NodeId) (tag : String)
  | appendText (p : NodeId) (s : String)
  | appendChild (p n : NodeId)
  | insertChild (p : NodeId) (index : Nat) (n : NodeId)
  | detach (n : NodeId)
  | replaceWith (n : NodeId) (replacements : List NodeId)
  | setText (n : NodeId) (s : String)
  | modifyAttrs (n : NodeId) (f : Attrs → Attrs)

def Operation.run (d : Document) : Operation → Document
  | create kind => (d.create kind).2
  | appendElement p tag => (d.appendElement p tag).2
  | appendText p s => (d.appendText p s).2
  | appendChild p n => d.appendChild p n
  | insertChild p index n => d.insertChild p index n
  | detach n => d.detach n
  | replaceWith n replacements => d.replaceWith n replacements
  | setText n s => d.setText n s
  | modifyAttrs n f => d.modifyAttrs n f

def perform (d : Document) (operations : List Operation) : Document := operations.foldl Operation.run d

/-- No operation separates the ends of a link. -/
theorem Linked.run (h : d.Linked) (operation : Operation) : (operation.run d).Linked := by
  cases operation with
  | create kind => exact h.create kind
  | appendElement p tag => exact h.appendElement p tag
  | appendText p s => exact h.appendText p s
  | appendChild p n => exact h.appendChild p n
  | insertChild p index n => exact h.insertChild p index n
  | detach n => exact h.detach n
  | replaceWith n replacements => exact h.replaceWith n replacements
  | setText n s => exact h.setText n s
  | modifyAttrs n f => exact h.modifyAttrs n f

theorem Linked.perform (h : d.Linked) (operations : List Operation) : (d.perform operations).Linked := by
  induction operations generalizing d with
  | nil => exact h
  | cons operation rest ih => exact ih (h.run operation)

end Document
end Rubric
